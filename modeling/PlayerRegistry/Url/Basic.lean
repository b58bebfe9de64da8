import PlayerRegistry.Net.Address
import PlayerRegistry.Text.Percent

/-!
# URLs of the web

A URL of scheme `http` or `https` in its normal form, and its text.
-/

namespace PlayerRegistry

inductive Host where
  | name (text : List Char)
  | ip (a : IpAddress)
  deriving DecidableEq, Repr, Inhabited

structure Url where
  secure : Bool
  username : List Char
  password : List Char
  host : Host
  /-- A port other than the usual one of the scheme. -/
  port : Option Nat
  /-- What stands between the slashes of the path; there is one segment at least. -/
  path : List (List Char)
  query : Option (List Char)
  fragment : Option (List Char)
  deriving DecidableEq, Repr, Inhabited

def Host.text : Host → List Char
  | .name text => text
  | .ip (.v4 a) => a.toText.toList
  | .ip (.v6 a) => '[' :: a.toText.toList ++ [']']

namespace Url

def scheme (u : Url) : List Char := if u.secure then "https".toList else "http".toList

def defaultPort (secure : Bool) : Nat := if secure then 443 else 80

def portOrDefault (u : Url) : Nat := u.port.getD (defaultPort u.secure)

/-- Host and port, as far as the port is not the usual one. -/
def authority (u : Url) : List Char :=
  u.host.text ++ match u.port with
    | some p => ':' :: Nat.toDigits 10 p
    | none => []

def credentials (u : Url) : List Char :=
  let password := if u.password.isEmpty then [] else ':' :: u.password
  if u.username.isEmpty && u.password.isEmpty then [] else u.username ++ password ++ ['@']

def pathText (path : List (List Char)) : List Char := path.flatMap fun segment => '/' :: segment

def text (u : Url) : List Char :=
  u.scheme ++ [':', '/', '/'] ++ u.credentials ++ u.authority ++ pathText u.path
    ++ (match u.query with
      | some q => '?' :: q
      | none => [])
    ++ (match u.fragment with
      | some f => '#' :: f
      | none => [])

def toText (u : Url) : String := String.ofList u.text

/-- The URL without user, password and fragment: what is asked of a server. -/
def target (u : Url) : Url := { u with username := [], password := [], fragment := none }

end Url

end PlayerRegistry
