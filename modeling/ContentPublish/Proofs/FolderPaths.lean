import ContentPublish.Proofs.PublishAreas
import ContentPublish.Proofs.LegacyBase

/-
  The paths of a folder's ancestors

  Two operations find a folder's ancestors in the text of its path, not in
  its segments. Making a folder exist writes the path of each prefix, a
  slash and a segment at a time; marking a folder trims the slashes that
  end its path and cuts it at its last slash to find its parent. Each of
  these texts is read into segments again when its URL is built, and they
  agree with the folder's own segments: the `k`-th prefix path has the
  first `k` segments, and the parent has all but the last, or all of them
  when the path ends in `.`.

  What is stated here:
    1. `pathPieces_append_slashes` and `segmentsOf_trimTrailingSlash` —
       slashes at the end of a path add no segment.
    2. `trimTrailingSlash_root_or_last` — a trimmed path ends in a piece
       that is not empty, unless it is the root.
    3. `segmentsOf_parentOf_of_last` — the segments of the parent, read off
       the last piece of the path.
    4. `segmentsOf_ancestor_paths` — the prefix paths and the parent of an
       item path have the segments they stand for.
-/

namespace ContentPublish

/-! ## Slashes at the end of a path -/

/-- Slashes after a path add only empty pieces, which are no segments. -/
theorem pathPieces_append_slashes (cs : List Char) :
    ∀ k, pathPieces (cs ++ List.replicate k '/') = pathPieces cs
  | 0 => by simp
  | k + 1 => by
    rw [List.replicate_succ', ← List.append_assoc, pathPieces_last_slash _ List.not_mem_nil,
      pathPieces_append_slashes cs k]
    simp

theorem pathPieces_trimTrailingSlash (path : String) :
    pathPieces (trimTrailingSlash path).toList = pathPieces path.toList := by
  obtain ⟨k, hk, -⟩ := trimEndSlashes_append path
  rw [hk, pathPieces_append_slashes]
  by_cases he : (trimEndSlashes path).isEmpty
  · -- only slashes: the root stands for the empty text
    have hroot : trimTrailingSlash path = "/" := by simp [trimTrailingSlash, he]
    rw [hroot, pathPieces_root, String.isEmpty_iff.mp he, String.toList_empty, pathPieces_nil]
  · simp [trimTrailingSlash, he]

/-- **Trimming the slashes that end a path keeps its segments.** -/
theorem segmentsOf_trimTrailingSlash {path : String} {segs : List String}
    (h : segmentsOf path = .ok segs) : segmentsOf (trimTrailingSlash path) = .ok segs := by
  rw [segmentsOf_eq_ok_iff, pathPieces_trimTrailingSlash]
  exact segmentsOf_eq_ok_iff.mp h

/-- A trimmed path is the root, or its last piece is not empty. -/
theorem trimTrailingSlash_root_or_last {path last : String}
    (hlast : ((trimTrailingSlash path).splitToList (· == '/')).getLast? = some last) :
    trimTrailingSlash path = "/" ∨ last ≠ "" := by
  by_cases he : (trimEndSlashes path).isEmpty
  · exact .inl (by simp [trimTrailingSlash, he])
  · -- the trimmed text is not empty and does not end in a slash
    right
    have htrim : trimTrailingSlash path = trimEndSlashes path := by simp [trimTrailingSlash, he]
    obtain ⟨k, -, hend⟩ := trimEndSlashes_append path
    obtain ⟨last', hlast', -, hcases⟩ := getLast?_splitToList_slash (trimEndSlashes path)
    rw [htrim, hlast', Option.some.injEq] at hlast
    subst hlast
    rintro rfl
    rcases hcases with hempty | ⟨pre, hsplit⟩
    · exact he (String.isEmpty_iff.mpr hempty)
    · exact hend '/' (by simp [hsplit]) rfl

/-! ## The parent of a path -/

theorem parentOf_root : parentOf "/" = "/" := by
  have hsplit : ("/" : String).toList = [] ++ '/' :: [] := rfl
  simpa using parentOf_of_last_slash hsplit List.not_mem_nil

theorem segmentsOf_root : segmentsOf "/" = .ok [] :=
  segmentsOf_eq_ok_iff.mpr ⟨by rw [pathPieces_root]; simp, pathPieces_root⟩

/-- **The parent of a path has its segments but the last**, or all of them
when the path's last piece is `.`; the last piece must not be empty, as it
is after a trailing slash. -/
theorem segmentsOf_parentOf_of_last {path last : String} {segs : List String}
    (h : segmentsOf path = .ok segs) (hlast : (path.splitToList (· == '/')).getLast? = some last)
    (hne : last ≠ "") :
    segmentsOf (parentOf path) = .ok (if last = "." then segs else segs.dropLast) := by
  obtain ⟨last', hlast', hpieces⟩ := pathPieces_eq_parentOf_append path
  rw [hlast, Option.some.injEq] at hlast'
  subst hlast'
  obtain ⟨hdd, rfl⟩ := segmentsOf_eq_ok_iff.mp h
  rw [hpieces] at hdd ⊢
  have hparent : ".." ∉ pathPieces (parentOf path).toList := fun hmem =>
    hdd (List.mem_append_left _ hmem)
  by_cases hdot : last = "."
  · -- a last `.` is no segment
    subst hdot
    simpa using segmentsOf_eq_ok_iff.mpr ⟨hparent, rfl⟩
  · -- any other last piece is the last segment
    have hkept : [last].filter (fun p => p != "" && p != ".") = [last] := by simp [hne, hdot]
    rw [if_neg hdot, hkept, List.dropLast_concat]
    exact segmentsOf_eq_ok_iff.mpr ⟨hparent, rfl⟩

/-! ## The ancestors of an item path -/

/-- **The paths of a folder's ancestors have the segments they stand for.**
For an item path with segments `segs`: the path written from the first `k`
segments, a slash before each, has exactly those segments; so the prefix
paths visited when the folder is made to exist have, in order, the first
one, two, and up to all of `segs`. Trimming the slashes that end the path
keeps its segments, and the parent of the trimmed path has all of them but
the last, or all of them when its last piece is `.`. -/
theorem segmentsOf_ancestor_paths {path : String} {segs : List String}
    (h : segmentsOf path = .ok segs) :
    (∀ k, segmentsOf (joinPath (segs.take k)) = .ok (segs.take k)) ∧
      (prefixPaths "" segs).map segmentsOf =
        (List.range segs.length).map (fun k => .ok (segs.take (k + 1))) ∧
      segmentsOf (trimTrailingSlash path) = .ok segs ∧
      segmentsOf (parentOf (trimTrailingSlash path)) =
        .ok (if ((trimTrailingSlash path).splitToList (· == '/')).getLast? = some "." then segs
          else segs.dropLast) := by
  have htake := segmentsOf_joinPath_take h
  have htrim := segmentsOf_trimTrailingSlash h
  refine ⟨htake, ?_, htrim, ?_⟩
  · rw [prefixPaths_empty, List.map_map]
    exact List.map_congr_left fun k _ => htake (k + 1)
  · obtain ⟨last, hlast, -, -⟩ := getLast?_splitToList_slash (trimTrailingSlash path)
    rcases trimTrailingSlash_root_or_last hlast with hroot | hne
    · -- the root has no segment, and is its own parent
      rw [hroot, segmentsOf_root, Except.ok.injEq] at htrim
      subst htrim
      simp [hroot, parentOf_root, segmentsOf_root]
    · rw [segmentsOf_parentOf_of_last htrim hlast hne, hlast]
      simp only [Option.some.injEq]

/-- The folder `/docs/site/.`, written with a slash after it: the prefix
paths have one and two segments, and the parent is the folder itself. -/
theorem segmentsOf_ancestor_paths_dot_end :
    segmentsOf "/docs/site/./" = .ok ["docs", "site"] ∧
      (∀ k, segmentsOf (joinPath (["docs", "site"].take k)) = .ok (["docs", "site"].take k)) ∧
      (prefixPaths "" ["docs", "site"]).map segmentsOf =
        (List.range ["docs", "site"].length).map (fun k => .ok (["docs", "site"].take (k + 1))) ∧
      segmentsOf (trimTrailingSlash "/docs/site/./") = .ok ["docs", "site"] ∧
      segmentsOf (parentOf (trimTrailingSlash "/docs/site/./")) =
        .ok (if ((trimTrailingSlash "/docs/site/./").splitToList (· == '/')).getLast? = some "."
          then ["docs", "site"] else ["docs", "site"].dropLast) := by
  have hsegs : segmentsOf "/docs/site/./" = .ok ["docs", "site"] := by decide +kernel
  exact ⟨hsegs, segmentsOf_ancestor_paths hsegs⟩

end ContentPublish
