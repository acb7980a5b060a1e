import SandboxImage.Template.Problem

/-!
# Forms

A part of a template file with fixed keys is filled in from a mapping, entry by entry, or from a
list of its values in the order of the keys. Entries are taken in the order in which they stand, so
the first entry that is at fault is the one reported.
-/

namespace SandboxImage.Template

open Yaml (Node Scalar Meaning)

/-- What stands at a node, if it has a value. -/
def found? (n : Node) : Option Found :=
  match n.target with
  | .scalar s => s.meaning?.map .scalar
  | .sequence _ => some .sequence
  | .mapping _ => some .mapping
  | .reference _ => none

/-- Something else was expected at a node. -/
def unexpected (place : Place) (n : Node) (expected : Expected) : Problem :=
  match found? n with
  | some found => ⟨place, .unexpected found expected⟩
  | none => ⟨place, .meaningless⟩

/-- How a part is filled in: what an empty form is, and how the value of a key changes it. -/
structure Form (σ : Type) where
  part : Part
  blank : σ
  fill : String → Place → Node → σ → Except Problem σ

namespace Form

variable {σ : Type}

/-- The place of an entry's value. A key that is a reference is not written at its place. -/
def entryPlace (place : Place) (key : Node) (name : String) : Place :=
  match key with
  | .reference _ => .unnamed :: place
  | _ => .key name :: place

/-- Fills in entries; `taken` holds the keys that were filled in before. -/
def fillEntries (f : Form σ) (place : Place) (taken : List String) :
    List (Node × Node) → σ → Except Problem σ
  | [], filled => .ok filled
  | (key, value) :: rest, filled =>
    match key.target with
    | .scalar s =>
      if s.text ∈ f.part.keys then
        if s.text ∈ taken then .error ⟨place, .repeatedKey s.text⟩
        else
          match f.fill s.text (entryPlace place key s.text) value filled with
          | .ok filled => fillEntries f place (s.text :: taken) rest filled
          | .error problem => .error problem
      else if f.part.isOpen then fillEntries f place taken rest filled
      else .error ⟨place, .unknownKey s.text f.part.keys⟩
    | _ => .error (unexpected place key .key)

/-- Fills in values in the order of the keys; the key at the head has the number `index`. A list
that is too long is at fault only when all values have been filled in. -/
def fillValues (f : Form σ) (place : Place) (index : Nat) :
    List (String × Bool) → List Node → σ → Except Problem σ
  | [], [], filled => .ok filled
  | [], rest, _ => .error ⟨place, .badLength (index + rest.length) (.length index)⟩
  | (_, mayEnd) :: fields, [], filled =>
    if mayEnd then fillValues f place (index + 1) fields [] filled
    else .error ⟨place, .badLength index (.values f.part)⟩
  | (key, _) :: fields, value :: rest, filled =>
    match f.fill key (.item index :: place) value filled with
    | .ok filled => fillValues f place (index + 1) fields rest filled
    | .error problem => .error problem

/-- Fills in a form from a node. -/
def read (f : Form σ) (place : Place) (n : Node) : Except Problem σ :=
  match n.target with
  | .mapping entries => f.fillEntries place [] entries f.blank
  | .sequence values => f.fillValues place 0 f.part.fields values f.blank
  | _ => .error (unexpected place n (.part f.part))

end Form

/-- The value of a key that has to be there. -/
def need {α : Type} (place : Place) (key : String) : Option α → Except Problem α
  | some a => .ok a
  | none => .error ⟨place, .missingKey key⟩

/-- Reads a text: any scalar, as it stands. -/
def readText (place : Place) (n : Node) : Except Problem String :=
  match n.target with
  | .scalar s => .ok s.text
  | _ => .error (unexpected place n .text)

/-- Reads the items from the number `index` on. -/
def readItems {α : Type} (read : Place → Node → Except Problem α) (place : Place) (index : Nat) :
    List Node → Except Problem (List α)
  | [] => .ok []
  | n :: rest => do
    let a ← read (.item index :: place) n
    let as ← readItems read place (index + 1) rest
    return a :: as

/-- Reads a list. -/
def readList {α : Type} (read : Place → Node → Except Problem α) (place : Place) (n : Node) :
    Except Problem (List α) :=
  match n.target with
  | .sequence items => readItems read place 0 items
  | _ => .error (unexpected place n .list)

/-- Reads a number without sign of so many bits. -/
def readUnsigned (bits : Nat) (place : Place) (n : Node) : Except Problem Nat :=
  match n.target with
  | .scalar s =>
    match s.meaning? with
    | some (.integer k) =>
      if 0 ≤ k ∧ k < Nat.pow 2 bits then .ok k.toNat
      else .error ⟨place, .outOfRange k (.unsigned bits)⟩
    | _ => .error (unexpected place n (.unsigned bits))
  | _ => .error (unexpected place n (.unsigned bits))

/-- Says whether a value is given at all: a plain null is none. -/
def isGiven (place : Place) (n : Node) : Except Problem Bool :=
  match n.target with
  | .scalar ⟨text, true, none⟩ => .ok (text != "~" && text != "null")
  | .scalar ⟨text, true, some ⟨"!!", "null"⟩⟩ =>
    if text == "~" || text == "null" then .ok false else .error ⟨place, .meaningless⟩
  | _ => .ok true

/-- Reads a value that may be missing. -/
def readOptional {α : Type} (read : Place → Node → Except Problem α) (place : Place) (n : Node) :
    Except Problem (Option α) := do
  if ← isGiven place n then some <$> read place n else return none

end SandboxImage.Template
