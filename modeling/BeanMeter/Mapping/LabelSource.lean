import BeanMeter.Text.Blank
import BeanMeter.Text.Split

/-! # Label sources

Where the value of a label comes from, and the rules by which catalogs say so.

* `LabelSource.parse?` — reads a rule.
* `LabelSource.text` — the rule in its plain form.
-/

namespace BeanMeter

/-- Where the value of a label comes from. -/
inductive LabelSource where
  /-- A key property of the object. -/
  | param (key : String)
  /-- Another attribute of the object. -/
  | beanAttr (attr : String)
  /-- A fixed value. -/
  | const (value : String)
  deriving DecidableEq, Repr

namespace LabelSource

/-- The word for the kind of source. -/
def kind : LabelSource → String
  | .param _ => "param"
  | .beanAttr _ => "beanattr"
  | .const _ => "const"

/-- What stands between the parentheses. -/
def argument : LabelSource → String
  | .param key => key
  | .beanAttr attr => attr
  | .const value => value

/-- The rule in its plain form. -/
def text (s : LabelSource) : String := s.kind ++ "(" ++ s.argument ++ ")"

/-- The source of a kind with an argument; only a fixed value may be empty. -/
def make? (kind : String) (argument : List Char) : Option LabelSource :=
  let s := String.ofList argument
  if kind = "const" then some (.const s)
  else if argument = [] then none
  else if kind = "param" then some (.param s)
  else if kind = "beanattr" then some (.beanAttr s)
  else none

/-- What stands between the first parenthesis, after `kind`, and a parenthesis at the very end. -/
def bodyAfter? (kind : String) (cs : List Char) : Option (List Char) :=
  (Text.stripStart? (kind.toList ++ ['(']) cs).bind fun rest =>
    if rest.getLast? = some ')' then some rest.dropLast else none

/-- Reads a rule: a word for the kind and an argument in parentheses on one line. Blanks around the
rule and around the argument do not count. -/
def parse? (rule : String) : Option LabelSource :=
  let cs := Text.trimChars rule.toList
  ["param", "beanattr", "const"].findSome? fun kind =>
    -- The body may hold parentheses itself: only the last one closes it.
    (bodyAfter? kind cs).bind fun body =>
      if body.contains '\n' then none else make? kind (Text.trimChars body)

end LabelSource

end BeanMeter
