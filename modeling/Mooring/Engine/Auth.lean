import Mooring.Json.Writer
import Mooring.Text.Base64
import Mooring.Text.Utf8
namespace Mooring.Engine

open Mooring.Json Mooring.Text

/-- Registry credentials. -/
structure RegistryAuth where
  username : Option String
  password : Option String
  email : Option String
  serveraddress : Option String
  identitytoken : Option String
  deriving DecidableEq, Inhabited

namespace RegistryAuth

def none : RegistryAuth := ⟨Option.none, Option.none, Option.none, Option.none, Option.none⟩

def basic (username password : String) : RegistryAuth :=
  { none with username := some username, password := some password }

def token (identityToken : String) : RegistryAuth := { none with identitytoken := some identityToken }

/-- The set fields, in key order. -/
def toValue (a : RegistryAuth) : Value :=
  .object <| [("email", a.email), ("identitytoken", a.identitytoken), ("password", a.password),
    ("serveraddress", a.serveraddress), ("username", a.username)].filterMap fun (k, v) =>
      v.map fun s => (k, .string s)

/-- The header value: the credentials' JSON in base64, the identity token alone if set. -/
def toHeader (a : RegistryAuth) : String :=
  let payload := match a.identitytoken with
    | some t => Value.object [("identitytoken", .string t)]
    | Option.none => a.toValue
  String.ofList (base64UrlEncode (Utf8.encode payload.render))

end RegistryAuth

/-- Credentials as given on a command line: a registry, user name, password and identity
token, each optional. -/
structure RegistryArgs where
  registry : Option String
  username : Option String
  password : Option String
  identityToken : Option String

/-- The credentials the arguments give: the identity token if set, else the user name with the
password (empty if not given) and the registry as server address; nothing without a user name. -/
def RegistryArgs.auth (r : RegistryArgs) : Option RegistryAuth :=
  match r.identityToken, r.username with
  | some t, _ => some (RegistryAuth.token t)
  | Option.none, some u =>
    some { RegistryAuth.basic u (r.password.getD "") with serveraddress := r.registry }
  | Option.none, Option.none => Option.none

end Mooring.Engine
