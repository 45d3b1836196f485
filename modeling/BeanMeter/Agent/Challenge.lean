import BeanMeter.Text.Blank
import BeanMeter.Text.LowerCase
import BeanMeter.Text.Quoted
import BeanMeter.Text.Split

/-! # Authentication challenges

An agent that wants to know who asks sends a challenge. It is turned into a list of callbacks, each
asking for one piece of information, which a handler fills in from the configured identity.

* `Challenge.parse` — the scheme and the realm of a challenge header.
* `Challenge.callbacks` — what the handler has to answer.
* `CallbackHandler.handle` — fills in callbacks up to the first that cannot be answered.
-/

namespace BeanMeter

/-- A request for one piece of information. -/
inductive Callback where
  /-- The user name. -/
  | name (value : Option String)
  /-- The password. -/
  | password (value : Option String)
  /-- The realm, with the one that the agent offers. -/
  | realm (offered text : Option String)
  /-- Something that no handler can answer. -/
  | other (kind : String)
  deriving DecidableEq, Repr

/-- The configured identity with which callbacks are answered. -/
structure CallbackHandler where
  username : Option String
  password : Option String
  realm : Option String
  deriving DecidableEq, Repr

namespace CallbackHandler

/-- The answer to one callback; none if it cannot be answered. The configured realm is preferred to
the offered one. -/
def answer? (h : CallbackHandler) : Callback → Option Callback
  | .name _ => some (.name h.username)
  | .password _ => some (.password h.password)
  | .realm offered _ => some (.realm offered (h.realm <|> offered))
  | .other _ => none

/-- Fills in callbacks in order, up to the first that cannot be answered: returns its kind, if
there is one, and the list as it is afterwards. -/
def handle (h : CallbackHandler) : List Callback → Option String × List Callback
  | [] => (none, [])
  | c :: cs =>
    match c with
    | .other kind => (some kind, c :: cs)
    | c =>
      let (failed, cs) := handle h cs
      (failed, (h.answer? c).getD c :: cs)

/-- A handler as it may be shown: the password is not. -/
def redacted (h : CallbackHandler) : String :=
  "SaslCallbackHandler \x7b username: " ++ Text.quoteOption h.username ++ ", password: " ++
    Text.quoteOption (h.password.map fun _ => "***") ++ ", realm: " ++ Text.quoteOption h.realm ++
    " \x7d"

end CallbackHandler

/-- What a challenge header says. -/
structure Challenge where
  scheme : String
  realm : Option String
  deriving DecidableEq, Repr

namespace Challenge

/-- Removes quotes from both ends. -/
def trimQuotes (cs : List Char) : List Char :=
  ((cs.dropWhile (· == '"')).reverse.dropWhile (· == '"')).reverse

/-- The realm that a parameter gives, if it gives one. -/
def realmOf? (parameter : List Char) : Option String :=
  match Text.splitFirst? '=' (Text.trimChars parameter) with
  | none => none
  | some (key, value) =>
    if Text.equalIgnoringCase (String.ofList (Text.trimChars key)) "realm" then
      some (String.ofList (trimQuotes (Text.trimChars value)))
    else none

/-- The challenge in a header value: the scheme up to the first space, then parameters separated by
commas, of which the first realm counts. -/
def parse (header : String) : Challenge :=
  let cs := Text.trimChars header.toList
  let (scheme, parameters) := (Text.splitFirst? ' ' cs).getD (cs, [])
  ⟨String.ofList scheme, (Text.splitOn ',' parameters).findSome? realmOf?⟩

/-- Whether the challenge is of the one scheme that can be answered. -/
def isBasic (c : Challenge) : Bool := Text.equalIgnoringCase c.scheme "basic"

/-- The callbacks that have to be answered. -/
def callbacks (c : Challenge) : List Callback :=
  [.name none, .password none, .realm c.realm none] ++
    if c.isBasic then [] else [.other (c.scheme ++ " challenge")]

end Challenge

end BeanMeter
