/-
# Names of character properties

What may stand in `\p`: a general category, a script or a yes-or-no property, by its name or an
abbreviation.  Case, spaces, hyphens, underscores and a leading `is` do not matter
(`PropertyName.normalize`).  `PropertyName.lookup?` finds a bare name, and
`PropertyName.lookupValue?` the value of a named property.
-/
import Highlighter.Regex.CharSet

namespace Highlighter

namespace PropertyName

/-- The form under which names are compared. -/
def normalize (name : List Char) : String :=
  let fold (cs : List Char) : List Char :=
    (cs.filter fun c => CharClass.isAscii c && c != ' ' && c != '_' && c != '-').map
      CharClass.asciiLower
  match name with
  | i :: s :: rest =>
    if CharClass.asciiLower i == 'i' && CharClass.asciiLower s == 's' then
      let folded := String.ofList (fold rest)
      if folded == "c" then "isc" else folded
    else String.ofList (fold name)
  | _ => String.ofList (fold name)

/-! ## 1. The names -/

/-- General categories and groups of them, with their names. -/
def categories : List (List String × List Category) := [
  (["lu", "uppercaseletter"], [.lu]),
  (["ll", "lowercaseletter"], [.ll]),
  (["lt", "titlecaseletter"], [.lt]),
  (["lc", "casedletter"], [.lu, .ll, .lt]),
  (["lm", "modifierletter"], [.lm]),
  (["lo", "otherletter"], [.lo]),
  (["l", "letter"], [.lu, .ll, .lt, .lm, .lo]),
  (["mn", "nonspacingmark"], [.mn]),
  (["mc", "spacingmark"], [.mc]),
  (["me", "enclosingmark"], [.me]),
  (["m", "mark", "combiningmark"], [.mn, .mc, .me]),
  (["nd", "decimalnumber", "digit"], [.nd]),
  (["nl", "letternumber"], [.nl]),
  (["no", "othernumber"], [.no]),
  (["n", "number"], [.nd, .nl, .no]),
  (["pc", "connectorpunctuation"], [.pc]),
  (["pd", "dashpunctuation"], [.pd]),
  (["ps", "openpunctuation"], [.ps]),
  (["pe", "closepunctuation"], [.pe]),
  (["pi", "initialpunctuation"], [.pi]),
  (["pf", "finalpunctuation"], [.pf]),
  (["po", "otherpunctuation"], [.po]),
  (["p", "punctuation", "punct"], [.pc, .pd, .ps, .pe, .pi, .pf, .po]),
  (["sm", "mathsymbol"], [.sm]),
  (["sc", "currencysymbol"], [.sc]),
  (["sk", "modifiersymbol"], [.sk]),
  (["so", "othersymbol"], [.so]),
  (["s", "symbol"], [.sm, .sc, .sk, .so]),
  (["zs", "spaceseparator"], [.zs]),
  (["zl", "lineseparator"], [.zl]),
  (["zp", "paragraphseparator"], [.zp]),
  (["z", "separator"], [.zs, .zl, .zp]),
  (["cc", "control", "cntrl"], [.cc]),
  (["cf", "format"], [.cf]),
  (["co", "privateuse"], [.co]),
  (["cn", "unassigned"], [.cn]),
  (["c", "other"], [.cc, .cf, .co, .cn])]

/-- The set of a general category, of everything, of what is assigned, or of ASCII. -/
def category? (name : String) : Option CharSet :=
  if name == "any" then some .all
  else if name == "assigned" then some (.compl (.property (.category [.cn])))
  else if name == "ascii" then some (.range (Char.ofNat 0) (Char.ofNat 0x7F))
  else (categories.find? (·.1.contains name)).map fun (_, cs) => .property (.category cs)

/-- The set of a yes-or-no property. -/
def binary? (name : String) : Option CharSet :=
  if name == "space" then some (.property .space)
  else
    (BinaryProperty.all.find? fun p =>
      normalize p.name.toList == name || normalize p.abbreviation.toList == name).map
      fun p => .property (.binary p.name)

/-- The set of a script. -/
def script? (name : String) : Option CharSet :=
  (Script.all.findIdx? fun s =>
    normalize s.name.toList == name || s.abbreviations.any (normalize ·.toList == name)).map
    fun position => .property (.script position)

/-! ## 2. Look-up -/

/-- Abbreviations that are read as categories although properties have them too. -/
def categoryFirst : List String := ["cf", "sc", "lc"]

/-- The set that a bare name stands for. -/
def lookup? (name : List Char) : Option CharSet :=
  let n := normalize name
  let asProperty := if categoryFirst.contains n then none else binary? n
  asProperty <|> category? n <|> script? n

/-- The set that a value of a named property stands for. -/
def lookupValue? (property value : List Char) : Option CharSet :=
  let v := normalize value
  let p := normalize property
  if p == "gc" || p == "generalcategory" then category? v
  else if p == "sc" || p == "script" then script? v
  else none

end PropertyName

end Highlighter
