/-
What is known of an object once it has been read as a record.  Its members have
been looked at to the last one, no known key came twice, and every field got a
value of its own kind.
-/
import Mathlib.Data.List.Nodup
import TableScribe.Proofs.Json.Objects

namespace TableScribe.Json

/-- Reading looks at the whole of a value: what it accepts is free of faults. -/
def Thorough {α : Type} (read : Tree → Read α) : Prop :=
  ∀ tree value, read tree = .ok value → tree.skip = .ok ()

section Readers

variable {α : Type}

theorem thorough_readString : Thorough Tree.readString := by
  intro tree text hread
  cases tree with
  | string literal => exact StringLiteral.skip_of_read hread
  | _ => exact nomatch hread

theorem thorough_readOptionalString : Thorough Tree.readOptionalString := by
  intro tree text hread
  cases tree with
  | null => rfl
  | string literal =>
      obtain ⟨value, hvalue, -⟩ := Except.map_eq_ok_iff.mp hread
      exact StringLiteral.skip_of_read hvalue
  | _ => exact nomatch hread

theorem thorough_readBool : Thorough Tree.readBool := by
  intro tree flag hread
  cases tree with
  | bool flag => rfl
  | _ => exact nomatch hread

theorem skip_of_readEach {read : Tree → Read α} (hthorough : Thorough read) {values : List α} :
    (items : Items) → items.readEach read = .ok values → items.skip = .ok ()
  | .close, _ => rfl
  | .item value rest, hread => by
      obtain ⟨first, hfirst, hread⟩ := Except.bind_eq_ok_iff.mp hread
      obtain ⟨others, hothers, -⟩ := Except.bind_eq_ok_iff.mp hread
      exact Items.skip_item_eq_ok_iff.mpr
        ⟨hthorough value first hfirst, skip_of_readEach hthorough rest hothers⟩

/-- A list is looked at to its last item. -/
theorem thorough_readList {read : Tree → Read α} (hthorough : Thorough read) :
    Thorough (Tree.readList read) := by
  intro tree values hread
  cases tree with
  | array items => exact skip_of_readEach hthorough items hread
  | _ => exact nomatch hread

end Readers

variable {δ α : Type}

/-- A text that is read as a whole is JSON to its end. -/
theorem Thorough.spelledIn {read : Tree → Read α} (hthorough : Thorough read) {text : String}
    {value : α} (hread : readText read text = .ok value) :
    ∃ tree : Tree, tree.SpelledIn text ∧ read tree = .ok value := by
  rw [readText] at hread
  cases hscan : scan text.toList with
  | mk tree after =>
      rw [hscan] at hread
      obtain ⟨first, hfirst, hread⟩ := Except.bind_eq_ok_iff.mp hread
      by_cases hend : skipSpace after = []
      · rw [hend] at hread
        obtain rfl := Except.ok.inj hread
        exact ⟨tree, spelledIn_of_scan hscan (hthorough tree first hfirst) hend, hfirst⟩
      · simp [hend] at hread

/-- A field of a record checks what a slot asks for. -/
structure FieldRule.Checks (field : FieldRule δ) (slot : Slot) : Prop where
  key : field.key = slot.key
  required : field.required = false → slot.Omissible
  admits : ∀ tree draft next, field.read tree draft = .ok next → slot.Admits tree
  thorough : ∀ draft, Thorough fun tree => field.read tree draft

/-- Reading a field sets it and none of the others. -/
def FieldRule.SetsOnly (field : FieldRule δ) (fields : List (FieldRule δ)) : Prop :=
  ∀ tree draft next, field.read tree draft = .ok next →
    ∀ other ∈ fields, other.isSet next = (other.isSet draft || other.key == field.key)

/-- A record has the fields of some slots, one for each key and none of them set
from the start. -/
structure RecordRule.Covers (rule : RecordRule δ α) (slots : List Slot) : Prop where
  checks : List.Forall₂ FieldRule.Checks rule.fields slots
  distinct : (slots.map Slot.key).Nodup
  blank : ∀ field ∈ rule.fields, field.isSet rule.blank = false
  sets : ∀ field ∈ rule.fields, field.SetsOnly rule.fields

namespace RecordRule.Covers

variable {rule : RecordRule δ α} {slots : List Slot}

theorem thorough (hcovers : rule.Covers slots) {field : FieldRule δ} (hfield : field ∈ rule.fields)
    (draft : δ) : Thorough fun tree => field.read tree draft := by
  obtain ⟨slot, -, hcheck⟩ := exists_right_of_forall₂ hcovers.checks field hfield
  exact hcheck.thorough draft

/-- The members of a record have been looked at, and the unknown ones have been
skipped. -/
theorem skip_of_readMembers (hcovers : rule.Covers slots) {draft final : δ} :
    (members : Members) → rule.readMembers members draft = .ok final → members.skip = .ok ()
  | .close, _ => rfl
  | .member key value rest, hread => by
      obtain ⟨name, hname, hread⟩ := readMembers_member_eq_ok_iff.mp hread
      have hkey := StringLiteral.skip_eq_ok_iff.mp (StringLiteral.skip_of_read hname)
      apply Members.skip_member_eq_ok_iff.mpr
      rcases hread with ⟨field, next, hfind, -, hvalue, hrest⟩ | ⟨-, hvalue, hrest⟩
      · have hfield := List.mem_of_find?_eq_some hfind
        exact ⟨hkey, hcovers.thorough hfield draft value next hvalue,
          hcovers.skip_of_readMembers rest hrest⟩
      · exact ⟨hkey, hvalue, hcovers.skip_of_readMembers rest hrest⟩

theorem skip_of_readItems (hcovers : rule.Covers slots) {fields : List (FieldRule δ)}
    (hfields : fields ⊆ rule.fields) {position : Nat} {draft final : δ} :
    (items : Items) → rule.readItems fields position items draft = .ok final →
      items.skip = .ok ()
  | .close, _ => rfl
  | .broken fault, hread => by cases fields <;> exact nomatch hread
  | .dangling fault, hread => by cases fields <;> exact nomatch hread
  | .item value rest, hread => by
      cases fields with
      | nil => exact nomatch hread
      | cons field fields =>
          obtain ⟨next, hvalue, hrest⟩ := Except.bind_eq_ok_iff.mp hread
          obtain ⟨hfield, hfields⟩ := List.cons_subset.mp hfields
          exact Items.skip_item_eq_ok_iff.mpr
            ⟨hcovers.thorough hfield draft value next hvalue,
              hcovers.skip_of_readItems hfields rest hrest⟩

/-- A record is looked at as a whole, in either form. -/
theorem thorough_read (hcovers : rule.Covers slots) : Thorough rule.read := by
  intro tree record hread
  cases tree with
  | object members =>
      obtain ⟨draft, hmembers, -⟩ := Except.bind_eq_ok_iff.mp hread
      exact hcovers.skip_of_readMembers members hmembers
  | array items =>
      obtain ⟨draft, hitems, -⟩ := Except.bind_eq_ok_iff.mp hread
      exact hcovers.skip_of_readItems (List.Subset.refl _) items hitems
  | _ => exact nomatch hread

/-- What is set is kept account of by its keys. -/
theorem mem_seen_of_read (hcovers : rule.Covers slots) {field : FieldRule δ}
    (hfield : field ∈ rule.fields) {value : Tree} {draft next : δ} {seen : List String}
    (hseen : ∀ other ∈ rule.fields, other.isSet draft = true ↔ other.key ∈ seen)
    (hread : field.read value draft = .ok next) :
    ∀ other ∈ rule.fields, other.isSet next = true ↔ other.key ∈ field.key :: seen := by
  intro other hother
  rw [hcovers.sets field hfield value draft next hread other hother, Bool.or_eq_true,
    hseen other hother, beq_iff_eq, List.mem_cons, or_comm]

/-- A draft that lacks nothing has every field that may not be left out. -/
theorem settledBy_of_missing? (hcovers : rule.Covers slots) {draft : δ} {seen : List String}
    (hseen : ∀ field ∈ rule.fields, field.isSet draft = true ↔ field.key ∈ seen)
    (hlacks : rule.missing? draft = none) : ∀ slot ∈ slots, slot.SettledBy seen := by
  intro slot hslot
  obtain ⟨field, hfield, hcheck⟩ := exists_right_of_forall₂ hcovers.checks.flip slot hslot
  have hset := List.find?_eq_none.mp hlacks field hfield
  cases hrequired : field.required with
  | false => exact .inr (hcheck.required hrequired)
  | true =>
      have hmem : field.isSet draft = true := by simpa [hrequired] using hset
      exact .inl (hcheck.key ▸ (hseen field hfield).mp hmem)

/-- Members that are read fill what a draft lacks. -/
theorem completedBy_of_readMembers (hcovers : rule.Covers slots) {first : Bool} {draft final : δ}
    {seen : List String}
    (hseen : ∀ field ∈ rule.fields, field.isSet draft = true ↔ field.key ∈ seen)
    (honce : seen.Nodup) {written : List Char} :
    (members : Members) → members.SpelledAs first written →
      rule.readMembers members draft = .ok final →
        ∃ entries, members.Lists entries ∧ ∀ slot ∈ slots, slot.CompletedBy seen entries
  | .close, _, hread => by
      refine ⟨[], .close, ?_⟩
      intro slot hslot
      have hlacks := (readMembers_close_eq_ok_iff.mp hread).1
      apply Slot.completedBy_nil_iff.mpr
      exact ⟨List.nodup_iff_count_le_one.mp honce slot.key,
        hcovers.settledBy_of_missing? hseen hlacks slot hslot⟩
  | .member key value rest, .member _ hkey _ _ hrest, hread => by
      obtain ⟨name, hname, hread⟩ := readMembers_member_eq_ok_iff.mp hread
      have hdenotes := hkey.denotes hname
      rcases hread with ⟨field, next, hfind, hunset, hvalue, hread⟩ | ⟨hfind, -, hread⟩
      · have hfield := List.mem_of_find?_eq_some hfind
        obtain rfl : field.key = name := by simpa using List.find?_some hfind
        have hnew : field.key ∉ seen := by
          rw [← hseen field hfield, hunset]
          exact Bool.false_ne_true
        have honce := List.nodup_cons.mpr ⟨hnew, honce⟩
        obtain ⟨entries, hlists, hcompleted⟩ := hcovers.completedBy_of_readMembers
          (hcovers.mem_seen_of_read hfield hseen hvalue) honce rest hrest hread
        refine ⟨_, .member hdenotes hlists, ?_⟩
        intro slot hslot
        apply Slot.completedBy_cons_iff.mpr
        refine ⟨?_, hcompleted slot hslot⟩
        intro hslotKey
        obtain ⟨own, hown, hcheck⟩ := exists_right_of_forall₂ hcovers.checks field hfield
        have hsame := List.inj_on_of_nodup_map hcovers.distinct hslot hown
          (hslotKey.trans hcheck.key)
        exact hsame ▸ hcheck.admits value draft next hvalue
      · obtain ⟨entries, hlists, hcompleted⟩ :=
          hcovers.completedBy_of_readMembers hseen honce rest hrest hread
        refine ⟨_, .member hdenotes hlists, ?_⟩
        intro slot hslot
        have hunknown : slot.key ≠ name := by
          rintro rfl
          obtain ⟨field, hfield, hcheck⟩ := exists_right_of_forall₂ hcovers.checks.flip slot hslot
          exact List.find?_eq_none.mp hfind field hfield (beq_iff_eq.mpr hcheck.key)
        exact (Slot.completedBy_cons_iff_of_ne hunknown).mpr (hcompleted slot hslot)

/-- An object that is read as a record has the fields of the record. -/
theorem isObjectOf_of_read (hcovers : rule.Covers slots) {members : Members} {written : List Char}
    (hspelled : (Tree.object members).SpelledAs written) {record : α}
    (hread : rule.read (.object members) = .ok record) :
    (Tree.object members).IsObjectOf slots := by
  obtain ⟨final, hmembers, -⟩ := Except.bind_eq_ok_iff.mp hread
  have hblank : ∀ field ∈ rule.fields, field.isSet rule.blank = true ↔ field.key ∈ [] := by
    intro field hfield
    simp [hcovers.blank field hfield]
  cases hspelled with
  | object hinside =>
      obtain ⟨entries, hlists, hcompleted⟩ :=
        hcovers.completedBy_of_readMembers hblank .nil members hinside hmembers
      exact ⟨members, entries, rfl, hlists, fun slot hslot =>
        Slot.completedBy_nil_left_iff.mp (hcompleted slot hslot)⟩

end RecordRule.Covers

end TableScribe.Json
