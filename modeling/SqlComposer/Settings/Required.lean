import SqlComposer.Failure.QueryError
import SqlComposer.Settings.Basic

/-!
# Required settings

A database can only be reached with a host, a user, a password and a name.
-/

set_option autoImplicit false

namespace SqlComposer

/-- Settings that do not say how to reach a database. -/
def missingDatabase : Failure :=
  .error (.configuration .configurationMissing
    ("Database configuration is missing. Please set DB_USER, DB_PASS, DB_HOST, and DB_NAME "
      ++ "environment variables.") none .empty)

/-- The settings, if they say how to reach a database. -/
def DatabaseSettings.require (s : DatabaseSettings) : Except Failure DatabaseSettings :=
  if s.isConfigured then .ok s else .error missingDatabase

end SqlComposer
