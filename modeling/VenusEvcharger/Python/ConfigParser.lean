import VenusEvcharger.Python.Numbers

/-!
# `configparser`

Reading an INI text with Python's `ConfigParser` and getting and setting its values with `BasicInterpolation`. Reading
fails on a line before the first section, on a repeated section or option and on a line that is no option; an option
name is kept as it is written. A value is interpolated when it is read, not when the file is: `%%` stands for `%`,
`%(name)s` for the value of another option, nested at most ten levels, and any other `%` is an error.
-/

namespace VenusEvcharger

open Library

/-- The `configparser.Error`s of reading. -/
inductive IniError where
  | missingSectionHeader
  | duplicateSection
  | duplicateOption
  | parsing
deriving DecidableEq

/-- A parser after reading: the options of the default section and of each other section. -/
structure ConfigParser where
  defaults : Dict String String
  sections : Dict String (Dict String String)
deriving DecidableEq

namespace ConfigParser

/-- `default_section`. -/
def defaultSection : String := "DEFAULT"

/-! ## Reading -/

/-- The local variables of `_read`. A value is the list of its lines. -/
structure Reading where
  defaults : Dict String (List String)
  sections : Dict String (Dict String (List String))
  /-- `sectname`; `cursect` is the dictionary of this section. -/
  sectname : Option String
  optname : Option String
  indentLevel : Nat
  /-- `elements_added`: sections, and options with their section. -/
  addedSections : List String
  addedOptions : List (String × String)
  /-- `e`: a line was no option. -/
  bogus : Bool

/-- The lines of a text with universal newlines. -/
def splitLines : List Char → List (List Char)
  | [] => []
  | '\r' :: '\n' :: rest => [] :: splitLines rest
  | '\r' :: rest => [] :: splitLines rest
  | '\n' :: rest => [] :: splitLines rest
  | c :: rest =>
    match splitLines rest with
    | [] => [[c]]
    | line :: lines => (c :: line) :: lines

/-- `SECTCRE.match`: the header reaches to the last closing bracket. -/
def sectionHeader : List Char → Option String
  | '[' :: rest =>
    match rest.reverse.dropWhile (· ≠ ']') with
    | _ :: c :: header => some (String.ofList (c :: header).reverse)
    | _ => none
  | _ => none

/-- `_optcre.match`: the option name ends at the first delimiter. -/
def optionLine (value : List Char) : Option (String × String) :=
  match value.dropWhile fun c => c ≠ '=' && c ≠ ':' with
  | [] => none
  | _ :: rest => some (strip (String.ofList (value.takeWhile fun c => c ≠ '=' && c ≠ ':')), strip (String.ofList rest))

namespace Reading

/-- `cursect[optname] = …` -/
def setOption (r : Reading) (sectname optname : String) (lines : List String) : Reading :=
  if sectname = defaultSection then { r with defaults := r.defaults.set optname lines }
  else { r with sections := r.sections.set sectname ((r.sections.getD sectname Dict.empty).set optname lines) }

/-- `cursect[optname].append(line)`, where an option is open. -/
def append (r : Reading) (line : String) : Reading :=
  match r.sectname, r.optname with
  | some sectname, some optname =>
    if optname = "" then r
    else
      let cursect := if sectname = defaultSection then r.defaults else r.sections.getD sectname Dict.empty
      r.setOption sectname optname (cursect.getD optname [] ++ [line])
  | _, _ => r

/-- A section header. -/
def openSection (r : Reading) (sectname : String) : Except IniError Reading :=
  let entered := { r with sectname := some sectname, optname := none }
  if (r.sections.get? sectname).isSome then
    if sectname ∈ r.addedSections then .error .duplicateSection
    else .ok { entered with addedSections := sectname :: r.addedSections }
  else if sectname = defaultSection then .ok entered
  else
    .ok { entered with
      sections := r.sections.set sectname Dict.empty
      addedSections := sectname :: r.addedSections }

/-- A line that is neither blank nor a comment nor a continuation. -/
def readOption (r : Reading) (value : String) : Except IniError Reading :=
  match sectionHeader value.toList, r.sectname with
  | some sectname, _ => r.openSection sectname
  | none, none => .error .missingSectionHeader
  | none, some sectname =>
    match optionLine value.toList with
    | none => .ok { r with bogus := true }
    | some (optname, optval) =>
      if (sectname, optname) ∈ r.addedOptions then .error .duplicateOption
      else
        .ok { r.setOption sectname optname [optval] with
          optname := some optname
          addedOptions := (sectname, optname) :: r.addedOptions
          bogus := r.bogus || optname = "" }

/-- One line of `_read`. -/
def readLine (r : Reading) (line : List Char) : Except IniError Reading :=
  let value := strip (String.ofList line)
  if value.startsWith "#" || value.startsWith ";" then .ok r
  else if value = "" then .ok (r.append "")
  else
    let indent := (line.takeWhile isSpace).length
    if r.optname.any (· ≠ "") && decide (r.indentLevel < indent) then .ok (r.append value)
    else { r with indentLevel := indent }.readOption value

/-- `_join_multiline_values`. -/
def joined (options : Dict String (List String)) : Dict String String :=
  options.mapVal fun _ lines =>
    String.ofList (("\n".intercalate lines).toList.reverse.dropWhile isSpace).reverse

end Reading

/-- `parser.read` on the text of a file. -/
def readText (text : String) : Except IniError ConfigParser := do
  let r ← (splitLines text.toList).foldlM Reading.readLine
    { defaults := Dict.empty, sections := Dict.empty, sectname := none, optname := none, indentLevel := 0,
      addedSections := [], addedOptions := [], bogus := false }
  if r.bogus then .error .parsing
  else .ok ⟨Reading.joined r.defaults, r.sections.mapVal fun _ options => Reading.joined options⟩

/-! ## Interpolation -/

/-- `_KEYCRE.match` after `%(`: the name, and what follows `)s`. -/
def keyReference (cs : List Char) : Option (List Char × List Char) :=
  match cs.takeWhile (· ≠ ')'), cs.dropWhile (· ≠ ')') with
  | c :: name, ')' :: 's' :: rest => some (c :: name, rest)
  | _, _ => none

/-- The loop of `_interpolate_some`, where `nested` interpolates a referenced value. The number bounds the rounds. -/
def interpolateRest (lookup : String → Option String) (nested : List Char → Except PyError (List Char)) :
    Nat → List Char → Except PyError (List Char)
  | _, [] => .ok []
  | 0, _ :: _ => .error .interpolationError
  | rounds + 1, '%' :: '%' :: rest => (fun tail => '%' :: tail) <$> interpolateRest lookup nested rounds rest
  | rounds + 1, '%' :: '(' :: rest =>
    match keyReference rest with
    | none => .error .interpolationError
    | some (name, rest) =>
      match lookup (String.ofList name) with
      | none => .error .interpolationError
      | some value => do
        let head ← if '%' ∈ value.toList then nested value.toList else .ok value.toList
        let tail ← interpolateRest lookup nested rounds rest
        return head ++ tail
  | _ + 1, '%' :: _ => .error .interpolationError
  | rounds + 1, c :: rest => (fun tail => c :: tail) <$> interpolateRest lookup nested rounds rest

/-- `_interpolate_some` with the levels of nesting that are left. -/
def interpolateSome (lookup : String → Option String) : Nat → List Char → Except PyError (List Char)
  | 0 => fun _ => .error .interpolationError
  | levels + 1 => fun rest => interpolateRest lookup (interpolateSome lookup levels) rest.length rest

/-- `MAX_INTERPOLATION_DEPTH`. -/
def maxInterpolationDepth : Nat := 10

/-- `BasicInterpolation.before_get`. -/
def beforeGet (lookup : String → Option String) (value : String) : Except PyError String :=
  String.ofList <$> interpolateSome lookup maxInterpolationDepth value.toList

/-- `value.replace('%%', '')`. -/
def dropPairs : List Char → List Char
  | '%' :: '%' :: rest => dropPairs rest
  | c :: rest => c :: dropPairs rest
  | [] => []

/-- `_KEYCRE.sub('', value)`. The number bounds the rounds. -/
def dropReferences : Nat → List Char → List Char
  | _, [] => []
  | 0, cs => cs
  | rounds + 1, '%' :: '(' :: rest =>
    match keyReference rest with
    | some (_, rest) => dropReferences rounds rest
    | none => '%' :: dropReferences rounds ('(' :: rest)
  | rounds + 1, c :: rest => c :: dropReferences rounds rest

/-- `BasicInterpolation.before_set` accepts the value: every `%` belongs to a pair or to a reference. -/
def settable (value : String) : Bool :=
  !(dropReferences value.toList.length (dropPairs value.toList)).contains '%'

/-- `_unify_values(section)`: an option of the section, else of the default section. -/
def unified (p : ConfigParser) (sectname key : String) : Option String :=
  ((p.sections.get? sectname).bind fun options => options.get? key) <|> p.defaults.get? key

/-- `options(section)`. -/
def options (p : ConfigParser) (sectname : String) : List String :=
  ((p.sections.getD sectname Dict.empty).update p.defaults).keys

/-- `parser[section].items()`: every option with its interpolated value. -/
def items (p : ConfigParser) (sectname : String) : Except PyError (List (String × String)) :=
  (p.options sectname).mapM fun key =>
    (fun value => (key, value)) <$> beforeGet (p.unified sectname) ((p.unified sectname key).getD "")

/-- `parser[section].get(key, fallback)` of a parser that lowers option names. -/
def get (p : ConfigParser) (sectname key fallback : String) : Except PyError String :=
  match p.unified sectname (lower key) with
  | none => .ok fallback
  | some value => beforeGet (fun name => p.unified sectname (lower name)) value

/-- `parser['DEFAULT'][key] = value` of a parser that lowers option names. -/
def setDefault (p : ConfigParser) (key value : String) : Except PyError ConfigParser :=
  if settable value then .ok { p with defaults := p.defaults.set (lower key) value } else .error .valueError

end ConfigParser

end VenusEvcharger
