/-
The segments and the names of joined paths.
-/
import Mathlib.Data.List.TakeWhile
import TableScribe.Proofs.Text.Segments
import TableScribe.Storage.Path

namespace TableScribe

namespace Path

/-- The place one segment further. -/
def advance (place : List String) (segment : String) : List String :=
  if isVoid segment then place
  else if segment = ".." then place.dropLast
  else place ++ [segment]

theorem segments_append_slash (front rest : String) :
    segments (front ++ "/" ++ rest) = segments front ++ segments rest := by
  have hslash : (front ++ "/" ++ rest).toList = front.toList ++ '/' :: rest.toList := by simp
  rw [segments, hslash, Text.segments_append, List.map_append]
  rfl

theorem segments_ne_nil (path : String) : segments path ≠ [] := by
  simp [segments, Text.segments_ne_nil]

/-- A path is its segments with slashes between them. -/
theorem intercalate_segments (path : String) : "/".intercalate (segments path) = path := by
  rw [← String.toList_inj, String.toList_intercalate, segments, List.map_map]
  have hsame : String.toList ∘ String.ofList = id := by
    funext letters
    simp
  rw [hsame, List.map_id]
  exact Text.intercalate_segments '/' path.toList

/-- Pieces without slashes are the segments of the path that they are joined
to. -/
theorem segments_intercalate {pieces : List String} (hpieces : pieces ≠ [])
    (hslash : ∀ piece ∈ pieces, '/' ∉ piece.toList) :
    segments ("/".intercalate pieces) = pieces := by
  rw [segments, String.toList_intercalate, Text.segments_eq_splitOn]
  change ((['/'].intercalate (pieces.map String.toList)).splitOn '/').map String.ofList = pieces
  rw [List.splitOn_intercalate '/' (by simpa using hslash) (by simpa using hpieces), List.map_map]
  have hsame : String.ofList ∘ String.toList = id := by
    funext text
    simp
  rw [hsame, List.map_id]

theorem slash_not_mem_of_mem_segments {path segment : String} (hsegment : segment ∈ segments path) :
    '/' ∉ segment.toList := by
  obtain ⟨letters, hletters, rfl⟩ := List.mem_map.mp hsegment
  rw [String.toList_ofList]
  exact Text.not_mem_of_mem_segments hletters

theorem names_append_slash (front rest : String) :
    names (front ++ "/" ++ rest) = names front ++ names rest := by
  rw [names, segments_append_slash, List.filter_append]
  rfl

/-- Without going up, segments lead to the names among them. -/
theorem foldl_advance_of_not_mem {segments : List String} (hup : ".." ∉ segments)
    (place : List String) :
    segments.foldl advance place = place ++ segments.filter fun segment => !isVoid segment := by
  induction segments generalizing place with
  | nil => simp
  | cons segment rest ih =>
      obtain ⟨hsegment, hrest⟩ := not_or.mp (mt List.mem_cons.mpr hup)
      rw [List.foldl_cons, ih hrest]
      cases hvoid : isVoid segment with
      | true => simp [advance, hvoid]
      | false => simp [advance, hvoid, Ne.symm hsegment]

/-- Empty segments at the end of a path lead nowhere. -/
theorem foldl_advance_trimmed (path : String) (place : List String) :
    (trimmed path).foldl advance place = (segments path).foldl advance place := by
  have hsplit : segments path =
      trimmed path ++ ((segments path).reverse.takeWhile String.isEmpty).reverse := by
    rw [trimmed, ← List.reverse_append, List.takeWhile_append_dropWhile, List.reverse_reverse]
  have hempty : ∀ segment ∈ ((segments path).reverse.takeWhile String.isEmpty).reverse,
      isVoid segment = true := by
    intro segment hsegment
    have hempty := List.mem_takeWhile_imp (List.mem_reverse.mp hsegment)
    simp [isVoid, hempty]
  have hup : ".." ∉ ((segments path).reverse.takeWhile String.isEmpty).reverse :=
    fun hmem => nomatch hempty ".." hmem
  rw [hsplit, List.foldl_append, foldl_advance_of_not_mem hup, List.filter_eq_nil_iff.mpr,
    List.append_nil]
  intro segment hsegment
  simp [hempty segment hsegment]

theorem isEmpty_eq_false_of_trimmed {path segment : String} {front : List String}
    (htrimmed : trimmed path = front ++ [segment]) : segment.isEmpty = false := by
  rw [trimmed, List.reverse_eq_iff, List.reverse_append] at htrimmed
  have hhead := List.head?_dropWhile_not String.isEmpty (segments path).reverse
  simpa [htrimmed] using hhead

/-- A joined path goes through the segments of the directory and then through
those of the path; an empty segment at the end of the directory is left out. -/
theorem segments_join (directory path : String) :
    ∃ front, segments (join directory path) = front ++ segments path ∧
      (segments directory = front ∨ segments directory = front ++ [""]) := by
  unfold join
  by_cases hempty : directory = ""
  · subst hempty
    exact ⟨[], by simp, Or.inr rfl⟩
  · by_cases hlast : directory.toList.getLast? = some '/'
    · obtain ⟨letters, hletters⟩ := List.getLast?_eq_some_iff.mp hlast
      obtain rfl : directory = String.ofList letters ++ "/" := by
        rw [← String.toList_inj, hletters]
        simp
      refine ⟨segments (String.ofList letters), ?_, Or.inr ?_⟩
      · rw [if_pos (by simp), segments_append_slash]
      · have hend := segments_append_slash (String.ofList letters) ""
        rwa [String.append_empty] at hend
    · refine ⟨segments directory, ?_, Or.inl rfl⟩
      rw [if_neg (by simp [hempty, hlast]), segments_append_slash]

/-- A plain path below a directory leads to the place of its names there. -/
theorem foldl_advance_join {path : String} (hplain : isPlain path = true) (directory : String)
    (place : List String) :
    (segments (join directory path)).foldl advance place =
      (segments directory).foldl advance place ++ names path := by
  have hup : ".." ∉ segments path := by
    simp only [isPlain, Bool.and_eq_true, Bool.not_eq_true'] at hplain
    simpa using hplain.2
  obtain ⟨front, hjoin, hdirectory⟩ := segments_join directory path
  rw [hjoin, List.foldl_append, foldl_advance_of_not_mem hup]
  rcases hdirectory with hdirectory | hdirectory
  · rw [hdirectory]
    rfl
  · rw [hdirectory, List.foldl_append]
    rfl

theorem isAbsolute_join {path : String} (hpath : isAbsolute path = false) (directory : String) :
    isAbsolute (join directory path) = isAbsolute directory := by
  by_cases hempty : directory = ""
  · subst hempty
    exact hpath
  · obtain ⟨first, others, hfirst⟩ :=
      List.exists_cons_of_ne_nil (mt String.toList_eq_nil_iff.mp hempty)
    unfold join isAbsolute
    split <;> simp [hfirst]

end Path

end TableScribe
