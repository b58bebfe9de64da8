import PlayerRegistry.Account.Basic

/-!
# The account table

Accounts with their token pairs. An id, a UUID, a username, a player name and a session token
belong to one account at most, and an id that was given out is never given out again. An operation
that fails leaves the table as it is.
-/

namespace PlayerRegistry

/-- An account as it is stored. A row whose skin model is no known one cannot be read. -/
structure Row where
  account : Account
  readable : Bool
  deriving DecidableEq

structure AccountTable where
  /-- In the order of their ids. -/
  rows : List Row
  /-- The last id that was given out. -/
  lastId : Nat
  deriving DecidableEq

namespace AccountTable

def empty : AccountTable := ⟨[], 0⟩

def notFound : Error := .notFound "Account not found"

def taken : Error := .conflict "Account already exists"

def unreadable : Error :=
  .storage "error occurred while decoding column \"skin_model\": unknown skin model"

/-- The account in a row. -/
def Row.read (r : Row) : Result Account :=
  if r.readable then .ok r.account else .error unreadable

/-- The account in the first row that meets `p`, if there is one. -/
def find (t : AccountTable) (p : Account → Bool) : Result (Option Account) :=
  match t.rows.find? fun r => p r.account with
  | none => .ok none
  | some r => (Row.read r).map some

def findById (t : AccountTable) (id : Int) : Result (Option Account) := t.find (·.id = id)

def findByUsername (t : AccountTable) (username : String) : Result (Option Account) :=
  t.find (·.username = username)

def findByToken (t : AccountTable) (token : String) : Result (Option Account) :=
  t.find (·.session.token = some token)

def holds (t : AccountTable) (id : Int) : Bool := t.rows.any (·.account.id = id)

/-- Whether a new account would share with an old one what only one may have. -/
def clashes (new : NewAccount) (a : Account) : Bool :=
  a.uuid = new.uuid || a.username = new.username || a.profile.playerName = new.playerName
    || (new.session.token.isSome && a.session.token = new.session.token)

def NewAccount.toAccount (new : NewAccount) (id : Int) : Account where
  id := id
  uuid := new.uuid
  username := new.username
  profile := {
    playerName := new.playerName
    password := new.password
    language := new.language
    skinModel := new.skinModel
    skinHash := none
    capeHash := none }
  session := new.session
  tokenPairs := []

def create (t : AccountTable) (new : NewAccount) : Result Account × AccountTable :=
  if t.rows.any fun r => clashes new r.account then (.error taken, t)
  else
    let account := NewAccount.toAccount new (t.lastId + 1 : Nat)
    (.ok account, ⟨t.rows ++ [⟨account, true⟩], t.lastId + 1⟩)

/-- Changes the row of an id. -/
def modify (t : AccountTable) (id : Int) (f : Row → Row) : AccountTable :=
  { t with rows := t.rows.map fun r => if r.account.id = id then f r else r }

/-- Writes the profile of an account; its session columns stay. -/
def save (t : AccountTable) (a : Account) : Result Unit × AccountTable :=
  if !t.holds a.id then (.error notFound, t)
  else if t.rows.any fun r =>
      r.account.id ≠ a.id && r.account.profile.playerName = a.profile.playerName then
    (.error taken, t)
  else (.ok (), t.modify a.id fun r => ⟨{ r.account with profile := a.profile }, true⟩)

/-- Writes the session of an account; its profile stays. -/
def setSession (t : AccountTable) (id : Int) (token : String) (expiresAt : Instant) :
    Result Unit × AccountTable :=
  if !t.holds id then (.error notFound, t)
  else if t.rows.any fun r => r.account.id ≠ id && r.account.session.token = some token then
    (.error taken, t)
  else
    let session : SessionColumns := ⟨some token, some expiresAt⟩
    (.ok (), t.modify id fun r => { r with account := { r.account with session := session } })

def clearSession (t : AccountTable) (id : Int) : AccountTable :=
  t.modify id fun r => { r with account := { r.account with session := ⟨none, none⟩ } }

/-- Removes an account and its token pairs. -/
def delete (t : AccountTable) (id : Int) : Result Unit × AccountTable :=
  if t.holds id then (.ok (), { t with rows := t.rows.filter (·.account.id ≠ id) })
  else (.error notFound, t)

/-- Pairs in the order of their times, the later added of equals last. -/
def addPair (pair : TokenPair) : List TokenPair → List TokenPair
  | [] => [pair]
  | p :: rest =>
    if pair.createdAt.nanos < p.createdAt.nanos then pair :: p :: rest else p :: addPair pair rest

/-- Adds a token pair: its account has to exist, and its access token to be new. -/
def addTokenPair (t : AccountTable) (id : Int) (pair : TokenPair) : Bool × AccountTable :=
  let used := t.rows.any fun r => r.account.tokenPairs.any (·.accessToken = pair.accessToken)
  if t.holds id && !used then
    (true, t.modify id fun r =>
      { r with account := { r.account with tokenPairs := addPair pair r.account.tokenPairs } })
  else (false, t)

/-- Writes a text where the skin model of an account is kept. -/
def setSkinModel (t : AccountTable) (id : Int) (text : String) : AccountTable :=
  t.modify id fun r =>
    match SkinModel.ofName? text with
    | some m => ⟨{ r.account with profile := { r.account.profile with skinModel := m } }, true⟩
    | none => { r with readable := false }

end AccountTable

end PlayerRegistry
