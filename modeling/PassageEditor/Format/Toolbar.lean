import PassageEditor.Json.Decode
import PassageEditor.Json.Reader

/-!
# Toolbars

A story format describes its toolbar as buttons, menus of buttons, and separators, and hands it over as a
JSON list.
-/

namespace PassageEditor

structure Button where
  command : String
  label : String
  icon : String
  iconOnly : Bool
  disabled : Bool
  deriving DecidableEq, Repr

/-- What a menu holds; `none` is a separator. -/
structure Menu where
  label : String
  icon : String
  iconOnly : Bool
  disabled : Bool
  items : List (Option Button)
  deriving DecidableEq, Repr

inductive ToolbarItem
  | button (b : Button)
  | menu (m : Menu)
  | separator
  deriving DecidableEq, Repr

namespace ToolbarItem

/-- The buttons that an item shows, those of a menu included. -/
def buttons : ToolbarItem → List Button
  | button b => [b]
  | menu m => m.items.filterMap id
  | separator => []

end ToolbarItem

/-- The buttons of a toolbar in order. -/
def flattenButtons (items : List ToolbarItem) : List Button :=
  items.flatMap (·.buttons)

/-! ### Reading -/

namespace Toolbar

open Json Json.Decode

def button : Decoder Button :=
  record "struct ToolbarButton"
    [.of "command" true text fun x b => { b with command := x },
     .of "label" true text fun x b => { b with label := x },
     .of "icon" false text fun x b => { b with icon := x },
     .of "iconOnly" false bool fun x b => { b with iconOnly := x },
     .of "disabled" false bool fun x b => { b with disabled := x }]
    ⟨"", "", "", false, false⟩

/-- A button or a separator of a menu. -/
def menuEntry : Decoder (Option Button) := fun v => do
  match ← tagged "internally tagged enum ToolbarMenuEntry" ["button", "separator"] v with
  | ("button", rest) => return some (← button rest)
  | (_, rest) => do empty "unit variant ToolbarMenuEntry::Separator" rest; return none

def menu : Decoder Menu :=
  record "struct ToolbarMenu"
    [.of "label" true text fun x m => { m with label := x },
     .of "icon" false text fun x m => { m with icon := x },
     .of "iconOnly" false bool fun x m => { m with iconOnly := x },
     .of "disabled" false bool fun x m => { m with disabled := x },
     .of "items" true (list menuEntry) fun x m => { m with items := x }]
    ⟨"", "", false, false, []⟩

/-- An item, given the name of its variant and the rest of it. -/
def itemOf : String × Value → Except String ToolbarItem
  | ("button", rest) => (button rest).map .button
  | ("menu", rest) => (menu rest).map .menu
  | (_, rest) => (empty "unit variant ToolbarItem::Separator" rest).map fun _ => .separator

def item : Reader ToolbarItem := do
  .ofExcept (itemOf (← .tagged "internally tagged enum ToolbarItem" ["button", "menu", "separator"]))

def ofJson (s : String) : Except Json.Error (List ToolbarItem) :=
  (Reader.list item).ofText s

/-! ### Writing -/

def buttonToJson (b : Button) : Value :=
  .object
    [("type", .text "button"), ("command", .text b.command), ("label", .text b.label),
     ("icon", .text b.icon), ("iconOnly", .bool b.iconOnly), ("disabled", .bool b.disabled)]

def separatorToJson : Value := .object [("type", .text "separator")]

def menuEntryToJson : Option Button → Value
  | some b => buttonToJson b
  | none => separatorToJson

def menuToJson (m : Menu) : Value :=
  .object
    [("type", .text "menu"), ("label", .text m.label), ("icon", .text m.icon),
     ("iconOnly", .bool m.iconOnly), ("disabled", .bool m.disabled),
     ("items", .list (m.items.map menuEntryToJson))]

def itemToJson : ToolbarItem → Value
  | .button b => buttonToJson b
  | .menu m => menuToJson m
  | .separator => separatorToJson

end Toolbar

end PassageEditor
