import CardPress.Number.FloatShape
import CardPress.Template.Problem
import CardPress.Text.Blank
import CardPress.Xml.Element

/-! What can go wrong. A `Problem` is found in the material of a deck and is reported to its author;
a `Fault` is none of the author's texts' doing or was not foreseen, and ends the run. -/
namespace CardPress

/-- Why a piece of a layout or project cannot be read. -/
inductive ParseCause where
  | malformed (m : Xml.Malformed)
  | wrongRoot (expected found : String)
  | missingField (tag field : String)
  | fieldNotNumber (tag field text : String)
  | notNumber (what text : String)
  | sideCount (what : String) (count : Nat)
  | notOneNumber (tag field : String)
  | unexpectedChild (tag parent : String)
  | unexpectedSetting (tag : String)
  | badOperator (text : String)
  | noRightValue (operator : String)
  | unknownPathStyle (tag : String)
  | unknownTextStyle (tag : String)
  | unknownElement (tag : String)
  | badSizeUnits (text : String)
  | badScaleMode (text : String)
  | noGeometry
  | colorComponent (component color : String)
  | componentCount (kind : String) (expected : Nat) (color : String)
  | dashCharacter (c : Char) (pattern : String) (offset : Nat)
  deriving DecidableEq, Repr

namespace ParseCause

def message : ParseCause → String
  | malformed m => m.message
  | wrongRoot expected found => s!"expected <{expected}> root, found <{found}>"
  | missingField tag field => s!"<{tag}> requires attribute {Text.quote field}"
  | fieldNotNumber tag field text =>
    s!"<{tag}> attribute {field}={Text.quote text} is not a number"
  | notNumber what text => s!"{what}: {Text.quote text} is not a number"
  | sideCount what count => s!"{what} takes 1, 2 or 4 values, got {count}"
  | notOneNumber tag field => s!"<{tag}> {field} takes one number"
  | unexpectedChild tag parent => s!"unexpected <{tag}> inside <{parent}>"
  | unexpectedSetting tag => s!"unexpected <{tag}> in project configuration"
  | badOperator text => s!"invalid only-if operator {Text.quote text}"
  | noRightValue operator => s!"only-if operator {Text.quote operator} needs a right-hand value"
  | unknownPathStyle tag => s!"unknown path style <{tag}>"
  | unknownTextStyle tag => s!"unknown text style <{tag}>"
  | unknownElement tag => s!"unknown layout element <{tag}>"
  | badSizeUnits text => s!"invalid size units {Text.quote text}"
  | badScaleMode text => s!"invalid image scale mode {Text.quote text}"
  | noGeometry => "layout has no <geometry>"
  | colorComponent component color =>
    s!"invalid color component {Text.quote component} in {Text.quote color}"
  | componentCount kind expected color =>
    s!"{kind}() takes {expected} components: {Text.quote color}"
  | dashCharacter c pattern offset =>
    "invalid character " ++ Text.quote (String.singleton c) ++ s!" at offset {offset}"
      ++ " in dash pattern " ++ Text.quote pattern

end ParseCause

/-- Why the parts of a deck do not fit together. -/
inductive ConfigurationCause where
  | badUnit (text : String)
  | badOrientation (text : String)
  | unknownPageSize (name : String)
  | unknownCardSize (name : String)
  | badMargins (count : Nat)
  | badGutter (count : Nat)
  | badAlignment (text : String)
  | noPlacement (sheetType : String)
  | noPageSize (sheetType : String)
  | noCardSize (sheetType : String)
  | incompleteSize (tag : String)
  | badFlipAxis (text : String)
  | unsupportedDataFile (path : String)
  | badQuantity (line : Nat) (quantity : Int)
  | duplicateCard (id source : String)
  | unknownSheetType (name : String) (known : List String)
  | notLiteralColor (name text : String)
  | noProjectFolder (path : String)
  | noSlots
  deriving DecidableEq, Repr

namespace ConfigurationCause

def message : ConfigurationCause → String
  | badUnit text => s!"invalid unit {Text.quote text}, expected one of in, pt, mm"
  | badOrientation text => s!"invalid orientation {Text.quote text}"
  | unknownPageSize name => s!"unknown page size {Text.quote name}"
  | unknownCardSize name => s!"unknown card size {Text.quote name}"
  | badMargins count => (ParseCause.sideCount "margins" count).message
  | badGutter count => s!"gutter takes 1 or 2 values, got {count}"
  | badAlignment text =>
    s!"invalid alignment {Text.quote text}, expected one of left, center, right"
  | noPlacement sheetType => s!"sheet type {Text.quote sheetType} has no placement method"
  | noPageSize sheetType => s!"sheet type {Text.quote sheetType} has no page size"
  | noCardSize sheetType => s!"sheet type {Text.quote sheetType} has no card size"
  | incompleteSize tag => s!"<{tag}> needs name= or width= and height="
  | badFlipAxis text => s!"invalid flip axis {Text.quote text}, expected horizontal or vertical"
  | unsupportedDataFile path => s!"unsupported data file type: {path}"
  | badQuantity line quantity =>
    s!"selection line {line}: quantity must be positive, got {quantity}"
  | duplicateCard id source => Text.trim s!"duplicate card id {Text.quote id} {source}"
  | unknownSheetType name known =>
    let names := if known.isEmpty then "none" else String.intercalate ", " known
    s!"unknown sheet type {Text.quote name} (defined: {names})"
  | notLiteralColor name text =>
    s!"color {Text.quote name} must be a literal color, not {Text.quote text}"
  | noProjectFolder path => s!"project directory not found: {path}"
  | noSlots => "sheet has no card slots; the card does not fit on the page"

end ConfigurationCause

/-- Why a card cannot be drawn. -/
inductive RenderCause where
  | noDashLength (segments : List Nat) (width : String)
  | badScaleMode (text : String)
  | undecodableImage (name path : String)
  deriving DecidableEq, Repr

def RenderCause.message : RenderCause → String
  | noDashLength segments width =>
    let lengths := String.intercalate ", " (segments.map fun n => toString n)
    "cannot build dash pattern from segments [" ++ lengths ++ "] at width " ++ width
  | badScaleMode text => s!"invalid image scale mode {Text.quote text}"
  | undecodableImage name path =>
    s!"cannot decode image {Text.quote name} from {path}: " ++
      s!"cannot identify image file {Text.quote path}"

/-- A flaw of template text, or what stopped a template on a card. -/
inductive TemplateCause where
  | flaw (f : Template.Fault) (offset : Nat)
  | trouble (t : Template.Trouble)
  deriving DecidableEq, Repr

inductive Problem where
  | parse (cause : ParseCause) (path : Option String) (line : Option Nat)
  | configuration (cause : ConfigurationCause) (source : Option String)
  | template (cause : TemplateCause) (source : String)
  | unknownColor (name : String)
  | noSuchCard (id : String)
  | noLayout (layout card : String)
  | emptyWorkbook (path : String)
  | render (cause : RenderCause)
  deriving DecidableEq, Repr

namespace Problem

def message : Problem → String
  | parse cause none _ => cause.message
  | parse cause (some path) none => path ++ ": " ++ cause.message
  | parse cause (some path) (some line) => s!"{path}:{line}: {cause.message}"
  | configuration cause none => cause.message
  | configuration cause (some source) => source ++ ": " ++ cause.message
  | template (.flaw f offset) source =>
    s!"{f.problem.message} (at offset {offset}) in template {Text.quote source}"
  | template (.trouble t) source => s!"{t.message} in template {Text.quote source}"
  | unknownColor name => s!"unknown color name {Text.quote name}"
  | noSuchCard id => s!"no card with id {Text.quote id}"
  | noLayout layout card => s!"card {Text.quote card} uses unknown layout {Text.quote layout}"
  | emptyWorkbook path => s!"workbook has no sheets: {path}"
  | render cause => cause.message

end Problem

/-- Why a file cannot be read or written. -/
inductive FileFault where
  | missing
  | isFolder
  | notFolder
  | exists
  | nameTooLong
  deriving DecidableEq, Repr

inductive Fault where
  | arithmetic (f : ArithmeticFault)
  | infiniteAngle
  | notWhole (text : String)
  | tooManyDigits (count : Nat)
  | unknownOperator (text : String)
  | misplacedStyle
  | entity (e : Xml.Entity)
  | malformed (m : Xml.Malformed)
  | encoding (f : Xml.EncodingFault)
  | undecodable (detail : String)
  | longField
  | notWorkbook
  | template (t : Template.Trouble)
  | file (f : FileFault)
  deriving DecidableEq, Repr

namespace Fault

def optionalText : Option String → String
  | none => "None"
  | some s => Text.quote s

def message : Fault → String
  | arithmetic .divisionByZero => "float division by zero"
  | arithmetic .floorDivisionByZero => "float floor division by zero"
  | arithmetic .infinityToWhole => "cannot convert float infinity to integer"
  | arithmetic .nanToWhole => "cannot convert float NaN to integer"
  | arithmetic .quotientTooLarge => "integer division result too large for a float"
  | arithmetic .wholeTooLarge => "int too large to convert to float"
  | arithmetic .countTooLarge => "cannot fit 'int' into an index-sized integer"
  | arithmetic .noRoom => ""
  | infiniteAngle => "math domain error"
  | notWhole text => "invalid literal for int() with base 10: " ++ Text.cut (Text.quote text)
  | tooManyDigits count =>
    "Exceeds the limit (4300 digits) for integer string conversion: value has " ++ toString count
      ++ " digits; use sys.set_int_max_str_digits() to increase the limit"
  | unknownOperator text => "unknown operator " ++ Text.quote text
  | misplacedStyle => "not a style of this kind"
  | entity e =>
    "EntitiesForbidden(name='" ++ e.name ++ "', system_id=" ++ optionalText e.systemId
      ++ ", public_id=" ++ optionalText e.publicId ++ ")"
  | malformed m => m.message
  | encoding f => f.message
  | undecodable detail => detail
  | longField => "field larger than field limit (131072)"
  | notWorkbook => "File is not a zip file"
  | template t => t.text
  | file .missing => "no such file"
  | file .isFolder => "is a folder"
  | file .notFolder => "not a folder"
  | file .exists => "file exists"
  | file .nameTooLong => "file name too long"

/-- A document that is refused, apart from any file. -/
def ofRefusal : Xml.Refusal → Fault
  | .malformed m => malformed m
  | .entity e => entity e
  | .encoding f => encoding f

end Fault

inductive Failure where
  | problem (p : Problem)
  | fault (f : Fault)
  deriving DecidableEq, Repr

namespace Failure

def message : Failure → String
  | problem p => p.message
  | fault f => f.message

def parse (cause : ParseCause) : Failure := .problem (.parse cause none none)

def configuration (cause : ConfigurationCause) : Failure := .problem (.configuration cause none)

def arithmetic (f : ArithmeticFault) : Failure := .fault (.arithmetic f)

/-- A reading failure that names no file yet names `source`. -/
def readFrom (source : Option String) : Failure → Failure
  | .problem (.parse cause none line) =>
    match source with
    | none => .problem (.parse cause none line)
    | some path => .problem (.parse cause (some path) none)
  | f => f

/-- The same for a failure of the project's settings, which always names the file that it is met in. -/
def configuredBy (source : Option String) : Failure → Failure
  | .problem (.configuration cause none) => .problem (.configuration cause source)
  | f => f.readFrom source

end Failure

end CardPress
