/-
Objects with known fields.  The members of an object come in any order, and
others may stand among them; each field comes at most once and only may be
missing if it can be left out.
-/
import Mathlib.Data.List.Forall2
import TableScribe.Json.Record
import TableScribe.Proofs.Json.Decoding
import TableScribe.Proofs.Json.Spelling

namespace TableScribe.Json

/-- The items of an array, in order. -/
inductive Items.Lists : Items → List Tree → Prop
  | close : Lists .close []
  | item {value : Tree} {rest : Items} {trees : List Tree} (hrest : Lists rest trees) :
    Lists (.item value rest) (value :: trees)

/-- The members of an object with the texts of their keys, in order. -/
inductive Members.Lists : Members → List (String × Tree) → Prop
  | close : Lists .close []
  | member {key : StringLiteral} {name : String} {value : Tree} {rest : Members}
    {entries : List (String × Tree)} (hkey : key.Denotes name) (hrest : Lists rest entries) :
    Lists (.member key value rest) ((name, value) :: entries)

theorem Items.Lists.spelledAs {items : Items} {trees : List Tree} (hlists : items.Lists trees)
    {first : Bool} {written : List Char} (hitems : items.SpelledAs first written) :
    ∀ tree ∈ trees, ∃ text, tree.SpelledAs text := by
  induction hlists generalizing first written with
  | close => exact nofun
  | item _ ih =>
      cases hitems with
      | item _ hvalue hrest => exact List.forall_mem_cons.mpr ⟨⟨_, hvalue⟩, ih hrest⟩

theorem Members.Lists.spelledAs {members : Members} {entries : List (String × Tree)}
    (hlists : members.Lists entries) {first : Bool} {written : List Char}
    (hmembers : members.SpelledAs first written) :
    ∀ entry ∈ entries, ∃ text, entry.2.SpelledAs text := by
  induction hlists generalizing first written with
  | close => exact nofun
  | member _ _ ih =>
      cases hmembers with
      | member _ _ _ hvalue hrest => exact List.forall_mem_cons.mpr ⟨⟨_, hvalue⟩, ih hrest⟩

/-- The keys of an object stand for one text each. -/
theorem Members.Lists.unique {members : Members} {entries others : List (String × Tree)}
    (hentries : members.Lists entries) (hothers : members.Lists others) : entries = others := by
  induction hentries generalizing others with
  | close =>
      cases hothers
      rfl
  | member hkey _ ih =>
      cases hothers with
      | member hother hrest =>
          rw [ih hrest, Except.ok.inj (hkey.read.symm.trans hother.read)]

/-- A field of some kind of objects: its key, the values that it may have, and
whether it may be left out. -/
structure Slot where
  key : String
  Admits : Tree → Prop
  Omissible : Prop

/-- A field has at most one value, which is one that it may have, and has none
only if it may be left out. -/
structure Slot.FilledBy (slot : Slot) (entries : List (String × Tree)) : Prop where
  once : (entries.map Prod.fst).count slot.key ≤ 1
  admitted : ∀ value, (slot.key, value) ∈ entries → slot.Admits value
  present : slot.key ∈ entries.map Prod.fst ∨ slot.Omissible

/-- A tree is an object with some fields, and maybe with others. -/
def Tree.IsObjectOf (slots : List Slot) (tree : Tree) : Prop :=
  ∃ members entries, tree = .object members ∧ members.Lists entries ∧
    ∀ slot ∈ slots, slot.FilledBy entries

/-- A field is filled by the members that are left once some keys have been
seen. -/
structure Slot.CompletedBy (slot : Slot) (seen : List String) (entries : List (String × Tree)) :
    Prop where
  once : seen.count slot.key + (entries.map Prod.fst).count slot.key ≤ 1
  admitted : ∀ value, (slot.key, value) ∈ entries → slot.Admits value
  present : slot.key ∈ seen ∨ slot.key ∈ entries.map Prod.fst ∨ slot.Omissible

/-- A field is settled once its key has been seen, or if it may be left out. -/
def Slot.SettledBy (slot : Slot) (seen : List String) : Prop := slot.key ∈ seen ∨ slot.Omissible

namespace Slot

variable {slot : Slot} {seen : List String} {name : String} {value : Tree}
  {entries : List (String × Tree)}

theorem completedBy_nil_left_iff : slot.CompletedBy [] entries ↔ slot.FilledBy entries := by
  constructor
  · intro hcompleted
    exact ⟨by simpa using hcompleted.once, hcompleted.admitted, by simpa using hcompleted.present⟩
  · intro hfilled
    exact ⟨by simpa using hfilled.once, hfilled.admitted, Or.inr hfilled.present⟩

/-- A key that is still to come has not been seen. -/
theorem CompletedBy.not_mem_seen
    (hcompleted : slot.CompletedBy seen ((slot.key, value) :: entries)) : slot.key ∉ seen := by
  intro hseen
  have honce := hcompleted.once
  have hcount := List.count_pos_iff.mpr hseen
  simp only [List.map_cons, List.count_cons_self] at honce
  omega

theorem completedBy_nil_iff :
    slot.CompletedBy seen [] ↔ seen.count slot.key ≤ 1 ∧ slot.SettledBy seen := by
  constructor
  · intro hcompleted
    exact ⟨hcompleted.once, by simpa [SettledBy] using hcompleted.present⟩
  · rintro ⟨honce, hsettled⟩
    exact ⟨honce, nofun, by simpa [SettledBy] using hsettled⟩

/-- A member of the field itself, or of any other, is seen. -/
theorem completedBy_cons_iff : slot.CompletedBy seen ((name, value) :: entries) ↔
    (slot.key = name → slot.Admits value) ∧ slot.CompletedBy (name :: seen) entries := by
  have hcount : (name :: seen).count slot.key + (entries.map Prod.fst).count slot.key =
      seen.count slot.key + (((name, value) :: entries).map Prod.fst).count slot.key := by
    simp only [List.map_cons, List.count_cons]
    omega
  constructor
  · intro hcompleted
    refine ⟨?_, hcount ▸ hcompleted.once, ?_, ?_⟩
    · rintro rfl
      exact hcompleted.admitted value (.head _)
    · exact fun other hother => hcompleted.admitted other (.tail _ hother)
    · simpa [or_assoc, or_left_comm] using hcompleted.present
  · rintro ⟨hvalue, hcompleted⟩
    refine ⟨hcount ▸ hcompleted.once, ?_, ?_⟩
    · intro other hother
      rcases List.mem_cons.mp hother with hsame | hother
      · obtain ⟨hname, rfl⟩ := Prod.mk.inj hsame
        exact hvalue hname
      · exact hcompleted.admitted other hother
    · simpa [or_assoc, or_left_comm] using hcompleted.present

/-- A member of another field may be passed over. -/
theorem completedBy_cons_iff_of_ne (hname : slot.key ≠ name) :
    slot.CompletedBy seen ((name, value) :: entries) ↔ slot.CompletedBy seen entries := by
  rw [completedBy_cons_iff]
  constructor
  · rintro ⟨-, honce, hadmitted, hpresent⟩
    exact ⟨by simpa [List.count_cons, hname.symm] using honce, hadmitted, by
      simpa [hname] using hpresent⟩
  · rintro ⟨honce, hadmitted, hpresent⟩
    exact ⟨fun hsame => absurd hsame hname, by simpa [List.count_cons, hname.symm] using honce,
      hadmitted, by simpa [hname] using hpresent⟩

end Slot

variable {δ α : Type}

/-- A text that spells a tree is read as the tree. -/
theorem readText_of_spelledIn {tree : Tree} {text : String} (htree : tree.SpelledIn text)
    (read : Tree → Read α) : readText read text = read tree := by
  obtain ⟨after, hafter, hscan⟩ := htree.scan
  have hend : skipSpace after = [] := by simpa [skipSpace] using skipSpace_append hafter []
  rw [readText, hscan]
  cases hread : read tree <;> simp [hread, hend, bind, Except.bind, pure, Except.pure]

/-- An object may end once its draft lacks nothing. -/
theorem RecordRule.readMembers_close_eq_ok_iff {rule : RecordRule δ α} {draft final : δ} :
    rule.readMembers .close draft = .ok final ↔ rule.missing? draft = none ∧ draft = final := by
  rw [RecordRule.readMembers]
  cases rule.missing? draft <;> simp

/-- What reading one member comes to: a known key sets its field, which must not
have been set, and the value of an unknown key is passed over. -/
theorem RecordRule.readMembers_member_eq_ok_iff {rule : RecordRule δ α} {key : StringLiteral}
    {value : Tree} {rest : Members} {draft final : δ} :
    rule.readMembers (.member key value rest) draft = .ok final ↔ ∃ name, key.read = .ok name ∧
      ((∃ field next, rule.fields.find? (fun field => field.key == name) = some field ∧
          field.isSet draft = false ∧ field.read value draft = .ok next ∧
          rule.readMembers rest next = .ok final) ∨
        rule.fields.find? (fun field => field.key == name) = none ∧ value.skip = .ok () ∧
          rule.readMembers rest draft = .ok final) := by
  rw [RecordRule.readMembers, Except.bind_eq_ok_iff]
  apply exists_congr
  intro name
  apply and_congr_right
  intro _
  cases rule.fields.find? fun field => field.key == name with
  | none => simp [Except.bind_eq_ok_iff, Unique.exists_iff]
  | some field => cases hset : field.isSet draft <;> simp [hset, Except.bind_eq_ok_iff]

/-- A field of a record is filled from a slot: it takes the values of the slot
into a draft in which some of the fields have been set, each to its own value. -/
structure FieldRule.Fills (field : FieldRule δ) (draft : List String → δ) (slot : Slot) : Prop where
  key : field.key = slot.key
  required : field.required = true → ¬slot.Omissible
  isSet : ∀ seen, field.isSet (draft seen) = true ↔ slot.key ∈ seen
  read : ∀ seen tree, slot.Admits tree → tree.skip = .ok () →
    field.read tree (draft seen) = .ok (draft (slot.key :: seen))

section Filling

variable {rule : RecordRule δ α} {slots : List Slot} {draft : List String → δ}

theorem exists_right_of_forall₂ {β γ : Type} {p : β → γ → Prop} {left : List β} {right : List γ}
    (hboth : List.Forall₂ p left right) : ∀ item ∈ left, ∃ other ∈ right, p item other := by
  induction hboth with
  | nil => exact nofun
  | cons hhead _ ih =>
      intro item hitem
      rcases List.mem_cons.mp hitem with rfl | hitem
      · exact ⟨_, .head _, hhead⟩
      · obtain ⟨other, hother, hp⟩ := ih item hitem
        exact ⟨other, .tail _ hother, hp⟩

/-- A draft in which every field is settled lacks nothing. -/
theorem missing?_eq_none (hfills : List.Forall₂ (FieldRule.Fills · draft) rule.fields slots)
    {seen : List String} (hsettled : ∀ slot ∈ slots, slot.SettledBy seen) :
    rule.missing? (draft seen) = none := by
  apply List.find?_eq_none.mpr
  intro field hfield hmissing
  obtain ⟨slot, hslot, hfill⟩ := exists_right_of_forall₂ hfills field hfield
  simp only [Bool.and_eq_true, Bool.not_eq_true'] at hmissing
  rcases hsettled slot hslot with hseen | homissible
  · rw [(hfill.isSet seen).mpr hseen] at hmissing
    exact nomatch hmissing.2
  · exact hfill.required hmissing.1 homissible

/-- Members that fill what is left of a draft are read into it. -/
theorem readMembers_of_completed
    (hfills : List.Forall₂ (FieldRule.Fills · draft) rule.fields slots) {members : Members}
    {entries : List (String × Tree)} (hlists : members.Lists entries)
    (hskip : members.skip = .ok ()) (seen : List String)
    (hcompleted : ∀ slot ∈ slots, slot.CompletedBy seen entries) :
    ∃ set, rule.readMembers members (draft seen) = .ok (draft set) ∧
      ∀ slot ∈ slots, slot.SettledBy set := by
  induction hlists generalizing seen with
  | close =>
      have hsettled : ∀ slot ∈ slots, slot.SettledBy seen :=
        fun slot hslot => (Slot.completedBy_nil_iff.mp (hcompleted slot hslot)).2
      refine ⟨seen, ?_, hsettled⟩
      exact RecordRule.readMembers_close_eq_ok_iff.mpr ⟨missing?_eq_none hfills hsettled, rfl⟩
  | @member key name value rest entries hkey _ ih =>
      obtain ⟨-, hvalueSkip, hrestSkip⟩ := Members.skip_member_eq_ok_iff.mp hskip
      cases hfind : rule.fields.find? fun field => field.key == name with
      | some field =>
          have hfield : field.key = name := by simpa using List.find?_some hfind
          obtain ⟨slot, hslot, hfill⟩ :=
            exists_right_of_forall₂ hfills field (List.mem_of_find?_eq_some hfind)
          obtain rfl : slot.key = name := hfill.key.symm.trans hfield
          have hunset : field.isSet (draft seen) = false := by
            rw [Bool.eq_false_iff, ne_eq, hfill.isSet]
            exact (hcompleted slot hslot).not_mem_seen
          have hread := hfill.read seen value ((hcompleted slot hslot).admitted value (.head _))
            hvalueSkip
          obtain ⟨set, hset, hall⟩ := ih hrestSkip (slot.key :: seen)
            fun other hother => (Slot.completedBy_cons_iff.mp (hcompleted other hother)).2
          refine ⟨set, ?_, hall⟩
          apply RecordRule.readMembers_member_eq_ok_iff.mpr
          exact ⟨slot.key, hkey.read, .inl ⟨field, _, hfind, hunset, hread, hset⟩⟩
      | none =>
          have hunknown : ∀ slot ∈ slots, slot.key ≠ name := by
            rintro slot hslot rfl
            obtain ⟨field, hfield, hfill⟩ := exists_right_of_forall₂ hfills.flip slot hslot
            exact List.find?_eq_none.mp hfind field hfield (beq_iff_eq.mpr hfill.key)
          obtain ⟨set, hset, hall⟩ := ih hrestSkip seen fun other hother =>
            (Slot.completedBy_cons_iff_of_ne (hunknown other hother)).mp (hcompleted other hother)
          refine ⟨set, ?_, hall⟩
          apply RecordRule.readMembers_member_eq_ok_iff.mpr
          exact ⟨name, hkey.read, .inr ⟨hfind, hvalueSkip, hset⟩⟩

/-- An object with the fields of a record is read as the record. -/
theorem read_of_isObjectOf (draft : List String → δ)
    (hfills : List.Forall₂ (FieldRule.Fills · draft) rule.fields slots)
    (hblank : draft [] = rule.blank) {tree : Tree} (htree : tree.IsObjectOf slots)
    (hskip : tree.skip = .ok ()) {record : α}
    (hcomplete : ∀ seen, (∀ slot ∈ slots, slot.SettledBy seen) →
      rule.complete (draft seen) = record) :
    rule.read tree = .ok record := by
  obtain ⟨members, entries, rfl, hlists, hfilled⟩ := htree
  obtain ⟨set, hset, hall⟩ := readMembers_of_completed hfills hlists hskip []
    fun slot hslot => Slot.completedBy_nil_left_iff.mpr (hfilled slot hslot)
  rw [RecordRule.read, ← hblank, hset, ← hcomplete set hall]
  rfl

end Filling

end TableScribe.Json
