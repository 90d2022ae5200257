import LeasePool.Text.Quoted

/-!
# Data sources and credentials

A data source names what a pool connects to and as whom. A password is never shown: where
credentials appear for display it is masked.

## Main definitions

* `Credentials`: an optional user name and an optional password.
* `DataSource`: an endpoint and the credentials to use there.
* `Credentials.masked`: the credentials with the password replaced by the mask.
-/

namespace LeasePool

/-- Who asks for a connection; the pool hands this on without reading it. -/
structure Credentials where
  username : Option String := none
  password : Option String := none
deriving DecidableEq, Inhabited

/-- What a pool connects to, and as whom. -/
structure DataSource where
  endpoint : String
  credentials : Credentials := {}
deriving DecidableEq, Inhabited

namespace Credentials

/-- What stands for a password wherever one is shown. -/
def mask : String := "************"

/-- The credentials with the mask in the place of a password. -/
def masked (c : Credentials) : Credentials := { c with password := c.password.map fun _ => mask }

/-- An optional text for inspection. -/
def optionText : Option String → String
  | none => "None"
  | some s => "Some(" ++ Text.quoted s ++ ")"

/-- The credentials for inspection, the password masked. -/
def inspect (c : Credentials) : String :=
  let shown := c.masked
  "Credentials \x7b username: " ++ optionText shown.username ++ ", password: " ++
    optionText shown.password ++ " \x7d"

end Credentials

end LeasePool
