import Reshape.Json.Location
import Reshape.Settings.Value

/-!
# Layers of configuration

A configuration is built up in layers, of which a later one counts for more:

* `Setting.overlay`: tables are merged key by key, whatever the case of the keys, and any other
  value takes the place of what stood there;
* a key on the outermost level may be an address such as `extraction.max_depth`;
* `Layer.merged` is what all the layers say together.
-/

namespace Reshape

namespace Setting

open Text (lower isDecimalDigit valueOf)
open Text.Reader

mutual

/-- What stands in a configuration once `upper` is laid over `below`. -/
def overlay (below : Setting) : Setting → Setting
  | table [] =>
    match below with
    | unset => table []
    | other => other
  | table (member :: rest) => table (overlayMembers below.entries (member :: rest))
  | upper => upper

/-- The members once others are laid over them. -/
def overlayMembers (below : Keyed Setting) : List (String × Setting) → Keyed Setting
  | [] => below
  | (key, upper) :: rest =>
    let here := (below.get? (lower key)).getD unset
    overlayMembers (below.insert (lower key) (overlay here upper)) rest

end

/-- Writes `value` at `position`, with nothing at positions that are not there yet. -/
def setItem (position : Nat) (value : Setting) (items : List Setting) : List Setting :=
  (items ++ List.replicate (position + 1 - items.length) unset).set position value

/-- What stands in a configuration once `value` is laid over the place at an address. What is no
table or list on the way gives way to one. -/
def place (value : Setting) : Location → Setting → Setting
  | [], below => overlay below value
  | .key name :: rest, below =>
    let here := (below.entries.get? (lower name)).getD unset
    table (below.entries.insert (lower name) (place value rest here))
  | .index position :: rest, below =>
    let here := if rest.isEmpty then unset else below.items[position]?.getD unset
    list (setItem position (place value rest here) below.items)

def isAddressChar (c : Char) : Bool := c.isAlphanum || c == '_' || c == '-' || c == ' '

def addressName : Text.Reader Step := do
  let name ← takeWhile1 isAddressChar
  pure (.key (String.ofList name))

def addressIndex : Text.Reader Step := do
  char '['
  skipWhile fun c => c == ' '
  let digits ← takeWhile1 isDecimalDigit
  skipWhile fun c => c == ' '
  char ']'
  if valueOf 10 digits < 0x8000000000000000 then pure (.index (valueOf 10 digits)) else failure

/-- An address: names with points between them, and positions in brackets. -/
def addressReader : Text.Reader Location := do
  let first ← addressName
  let rest ← many ((do char '.'; addressName) <|> addressIndex)
  pure (first :: rest)

/-- The place that a key means; a key that is no address is a name. -/
def address (key : String) : Location := (run? addressReader key).getD [.key key]

end Setting

/-- What one source of configuration says: values under keys. -/
abbrev Layer := List (String × Setting)

namespace Layer

/-- The configuration once this layer is laid over it. -/
def onto (below : Setting) (layer : Layer) : Setting :=
  layer.foldl (fun below entry => Setting.place entry.2 (Setting.address entry.1) below) below

/-- What layers say together, later ones counting for more. -/
def merged (layers : List Layer) : Setting := layers.foldl onto (.table [])

def ofToml (members : Keyed Toml) : Layer := Setting.ofTomlMembers members

end Layer

end Reshape
