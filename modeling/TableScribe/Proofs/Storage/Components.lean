/-
The components of paths.  They decide where a path leads, those of a joined path
are the components of both its parts, and the paths of the directories above a
path are its beginnings.
-/
import TableScribe.Proofs.Storage.Places
import TableScribe.Storage.Disk

namespace TableScribe

namespace Path

/-- One step of a path. -/
inductive Component
  /-- To the root, by a slash at the start. -/
  | root
  /-- Nowhere, by a `.` at the start; any other `.` is no component. -/
  | current
  /-- To the directory above. -/
  | parent
  | name (text : String)
deriving DecidableEq

/-- Whether a component is a plain name. -/
def Component.IsName : Component → Prop
  | name _ => True
  | root | current | parent => False

/-- The place one component further. -/
def Component.follow (place : List String) : Component → List String
  | root => []
  | current => place
  | parent => place.dropLast
  | name text => place ++ [text]

/-- The component that a segment is, unless it is void. -/
def component? (segment : String) : Option Component :=
  if isVoid segment then none
  else if segment = ".." then some .parent
  else some (.name segment)

/-- What a path says of where it starts. -/
def lead (path : String) : List Component :=
  if isAbsolute path then [.root]
  else if (segments path).head? = some "." then [.current]
  else []

/-- The components of a path. -/
def components (path : String) : List Component :=
  lead path ++ (segments path).filterMap component?

variable {path : String}

theorem components_append_slash (front rest : String) :
    components (front ++ "/" ++ rest) =
      components (front ++ "/") ++ (segments rest).filterMap component? := by
  have hlead : lead (front ++ "/" ++ rest) = lead (front ++ "/") := by
    obtain ⟨first, others, hfirst⟩ := List.exists_cons_of_ne_nil (segments_ne_nil front)
    have hslash := segments_append_slash front ""
    have habsolute : isAbsolute (front ++ "/" ++ rest) = isAbsolute (front ++ "/") := by
      cases hletters : front.toList <;> simp [isAbsolute, hletters]
    rw [String.append_empty] at hslash
    rw [lead, lead, habsolute, segments_append_slash, hslash, hfirst]
    rfl
  have hslash : (segments (front ++ "/")).filterMap component? =
      (segments front).filterMap component? := by
    have hslash := segments_append_slash front ""
    rw [String.append_empty] at hslash
    rw [hslash, List.filterMap_append]
    exact List.append_nil _
  rw [components, components, hlead, hslash, segments_append_slash, List.filterMap_append,
    List.append_assoc]

/-- A slash at the end of a path is no component. -/
theorem components_slash (hpath : path ≠ "") : components (path ++ "/") = components path := by
  have hslash := segments_append_slash path ""
  rw [String.append_empty] at hslash
  have habsolute : isAbsolute (path ++ "/") = isAbsolute path := by
    obtain ⟨first, others, hfirst⟩ :=
      List.exists_cons_of_ne_nil (mt String.toList_eq_nil_iff.mp hpath)
    simp [isAbsolute, hfirst]
  obtain ⟨first, others, hfirst⟩ := List.exists_cons_of_ne_nil (segments_ne_nil path)
  rw [components, components, lead, lead, habsolute, hslash, List.filterMap_append, hfirst]
  congr 1
  exact List.append_nil _

/-- A path may be written to exactly if its components are plain names. -/
theorem forall_isName_iff :
    (∀ component ∈ components path, component.IsName) ↔
      isAbsolute path = false ∧ isPlain path = true := by
  have hnames : (∀ component ∈ (segments path).filterMap component?, component.IsName) ↔
      ".." ∉ segments path := by
    constructor
    · intro hnames hup
      exact hnames .parent (List.mem_filterMap.mpr ⟨"..", hup, rfl⟩)
    · intro hup component hcomponent
      obtain ⟨segment, hsegment, hsome⟩ := List.mem_filterMap.mp hcomponent
      unfold component? at hsome
      split_ifs at hsome with hvoid hparent
      · exact absurd (hparent ▸ hsegment) hup
      · obtain rfl := Option.some.inj hsome
        trivial
  have hlead : (∀ component ∈ lead path, component.IsName) ↔
      isAbsolute path = false ∧ (segments path).head? ≠ some "." := by
    unfold lead
    split_ifs <;> simp_all [Component.IsName]
  rw [components, List.forall_mem_append, hnames, hlead, isPlain, and_assoc]
  simp

/-- A path may be written to exactly if all its components are names. -/
theorem checkPath_eq_ok_iff :
    GeneratedFile.checkPath path = .ok () ↔
      ∀ component ∈ components path, component.IsName := by
  rw [forall_isName_iff, GeneratedFile.checkPath]
  split_ifs <;> simp_all

/-- Below a directory a plain path goes on where the directory ends. -/
theorem components_join (hnames : ∀ component ∈ components path, component.IsName)
    (directory : String) :
    components (join directory path) = components directory ++ components path := by
  have hpath : components path = (segments path).filterMap component? := by
    obtain ⟨habsolute, hplain⟩ := forall_isName_iff.mp hnames
    simp only [isPlain, Bool.and_eq_true, bne_iff_ne] at hplain
    rw [components, lead, habsolute]
    simp [hplain.1]
  unfold join
  by_cases hempty : directory = ""
  · subst hempty
    rw [if_pos (by simp), String.empty_append]
    rfl
  · by_cases hlast : directory.toList.getLast? = some '/'
    · obtain ⟨letters, hletters⟩ := List.getLast?_eq_some_iff.mp hlast
      obtain rfl : directory = String.ofList letters ++ "/" := by
        rw [← String.toList_inj, hletters]
        simp
      rw [if_pos (by simp), components_append_slash, hpath]
    · rw [if_neg (by simp [hempty, hlast]), components_append_slash, components_slash hempty,
        hpath]

/-- Directories above a path are given by the beginnings of the path. -/
theorem exists_of_mem_prefixPaths {ending : List String} {above : String}
    (habove : above ∈ prefixPaths ending) :
    ∃ dropped segment rest, ending = dropped ++ segment :: rest ∧ isVoid segment = false ∧
      above = "/".intercalate (segment :: rest).reverse := by
  induction ending with
  | nil => exact nomatch habove
  | cons segment rest ih =>
      rw [prefixPaths] at habove
      split at habove
      case isTrue hvoid =>
        obtain ⟨dropped, last, front, rfl, hlast⟩ := ih habove
        exact ⟨segment :: dropped, last, front, rfl, hlast⟩
      case isFalse hvoid =>
        rcases List.mem_cons.mp habove with rfl | habove
        · exact ⟨[], segment, rest, rfl, by simpa using hvoid, rfl⟩
        · obtain ⟨dropped, last, front, rfl, hlast⟩ := ih habove
          exact ⟨segment :: dropped, last, front, rfl, hlast⟩

/-- The segments of a path go on after those of a directory above it, and
something is named in both parts. -/
theorem exists_segments_of_mem_above {above : String} (habove : above ∈ Path.above path) :
    ∃ front below, segments path = front ++ below ∧ above = "/".intercalate front ∧
      (∃ segment ∈ front, isVoid segment = false) ∧ ∃ name ∈ below, isVoid name = false := by
  have hsplit : (segments path).reverse.takeWhile isVoid ++
      (segments path).reverse.dropWhile isVoid = (segments path).reverse :=
    List.takeWhile_append_dropWhile
  have hnamed := List.head?_dropWhile_not isVoid (segments path).reverse
  unfold Path.above at habove
  cases hending : (segments path).reverse.dropWhile isVoid with
  | nil =>
      rw [hending] at habove
      exact nomatch habove
  | cons name ending =>
      rw [hending] at hsplit hnamed habove
      obtain ⟨dropped, segment, rest, hdropped, hvoid, rfl⟩ := exists_of_mem_prefixPaths habove
      obtain rfl : ending = dropped ++ segment :: rest := hdropped
      refine ⟨(segment :: rest).reverse,
        ((segments path).reverse.takeWhile isVoid ++ name :: dropped).reverse, ?_, rfl,
        ⟨segment, by simp, hvoid⟩, name, by simp, by simpa using hnamed⟩
      calc segments path
          = ((segments path).reverse.takeWhile isVoid ++
              name :: (dropped ++ segment :: rest)).reverse :=
            List.reverse_eq_iff.mp hsplit.symm
        _ = _ := by simp

/-- A directory above a path has the first components of the path, though not
all of them. -/
theorem exists_of_mem_above {above : String} (habove : above ∈ Path.above path) :
    ∃ rest, rest ≠ [] ∧ components path = components above ++ rest := by
  obtain ⟨front, below, hsegments, rfl, ⟨segment, hsegment, hvoid⟩, name, hname, hnamed⟩ :=
    exists_segments_of_mem_above habove
  have hslash (piece : String) (hpiece : piece ∈ segments path) : '/' ∉ piece.toList :=
    slash_not_mem_of_mem_segments hpiece
  rw [hsegments] at hslash
  have hfront := segments_intercalate (List.ne_nil_of_mem hsegment)
    fun piece hpiece => hslash piece (List.mem_append_left below hpiece)
  have hbelow := segments_intercalate (List.ne_nil_of_mem hname)
    fun piece hpiece => hslash piece (List.mem_append_right front hpiece)
  have hpath : path = "/".intercalate front ++ "/" ++ "/".intercalate below := by
    rw [← String.intercalate_append_of_ne_nil (List.ne_nil_of_mem hsegment)
      (List.ne_nil_of_mem hname), ← hsegments, intercalate_segments]
  have hempty : "/".intercalate front ≠ "" := by
    intro hempty
    rw [← hfront, hempty] at hsegment
    obtain rfl := List.mem_singleton.mp hsegment
    exact nomatch hvoid
  refine ⟨below.filterMap component?, ?_, ?_⟩
  · intro hnil
    have hnone := List.filterMap_eq_nil_iff.mp hnil name hname
    unfold component? at hnone
    split_ifs at hnone
    simp_all
  · calc components path
        = components ("/".intercalate front ++ "/" ++ "/".intercalate below) := by rw [← hpath]
      _ = components ("/".intercalate front) ++ below.filterMap component? := by
          rw [components_append_slash, components_slash hempty, hbelow]

/-- The paths of a directory and of the directories above it, as far as they can
be missing. -/
def chain (path : String) : List String := if path.isEmpty then [] else path :: above path

/-- The directories down to what a path names are the root, which is there, or
lie above the path. -/
theorem exists_of_mem_chain_parent {other : String} (hchain : other ∈ chain (parent path)) :
    other = "/" ∨ ∃ rest, rest ≠ [] ∧ components path = components other ++ rest := by
  unfold chain at hchain
  split at hchain
  case isTrue => exact nomatch hchain
  case isFalse hempty =>
    cases habove : above path with
    | nil =>
        rw [parent, habove] at hchain hempty
        split_ifs at hchain hempty with habsolute
        · exact Or.inl (List.mem_singleton.mp hchain)
        · exact absurd rfl hempty
    | cons first others =>
        have hparent : parent path = first := by
          rw [parent, habove]
          rfl
        rw [hparent] at hchain
        obtain ⟨rest, hrest, hfirst⟩ := exists_of_mem_above (habove ▸ List.mem_cons_self)
        rcases List.mem_cons.mp hchain with rfl | hothers
        · exact Or.inr ⟨rest, hrest, hfirst⟩
        · obtain ⟨more, -, hmore⟩ := exists_of_mem_above hothers
          refine Or.inr ⟨more ++ rest, by simp [hrest], ?_⟩
          rw [hfirst, hmore, List.append_assoc]

end Path

namespace FileSystem

/-- The place that components lead to. -/
def placeAt (files : FileSystem) (components : List Path.Component) : List String :=
  components.foldl Path.Component.follow (files.start "").place

theorem placeOf_eq_placeAt (files : FileSystem) (path : String) :
    files.placeOf path = files.placeAt (Path.components path) := by
  have hlead : (Path.lead path).foldl Path.Component.follow (files.start "").place =
      (files.start path).place := by
    unfold Path.lead
    split_ifs with habsolute hcurrent
    · simp [start, habsolute, Path.Component.follow, Trail.place]
    · rw [start, start, if_neg habsolute]
      rfl
    · rw [start, start, if_neg habsolute]
      rfl
  rw [placeAt, Path.components, List.foldl_append, hlead, List.foldl_filterMap, placeOf]
  congr 1
  funext place segment
  unfold Path.advance Path.component?
  split_ifs <;> rfl

end FileSystem

end TableScribe
