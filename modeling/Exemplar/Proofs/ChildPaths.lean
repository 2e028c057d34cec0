import Exemplar.Proofs.WrittenFiles

namespace Exemplar

namespace Path

/-- A path is cut as a list is split. -/
theorem split_eq_splitOn (text : List Char) : split text = text.splitOn '/' := by
  induction text with
  | nil => exact (List.splitOn_nil '/').symm
  | cons character rest inductionHypothesis =>
      rw [split, List.splitOn_cons_eq_if_modifyHead, inductionHypothesis]
      by_cases slash : character = '/'
      · simp [slash]
      · obtain ⟨first, later, parts⟩ := List.exists_cons_of_ne_nil (List.splitOn_ne_nil '/' rest)
        simp [slash, parts]

/-- No part of a path that is cut has a slash. -/
theorem slash_notMem_of_mem_split {text part : List Char} (member : part ∈ split text) :
    '/' ∉ part := by
  induction text generalizing part with
  | nil =>
      rw [split, List.mem_singleton] at member
      rw [member]
      exact List.not_mem_nil
  | cons character rest inductionHypothesis =>
      rw [split] at member
      by_cases slash : character = '/'
      · rw [if_pos slash] at member
        rcases List.mem_cons.mp member with rfl | later
        · exact List.not_mem_nil
        · exact inductionHypothesis later
      · rw [if_neg slash] at member
        cases parts : split rest with
        | nil =>
            rw [parts, List.mem_singleton] at member
            simp [member, Ne.symm slash]
        | cons first later =>
            rw [parts] at inductionHypothesis member
            rcases List.mem_cons.mp member with rfl | inLater
            · have unslashed := inductionHypothesis List.mem_cons_self
              simp [unslashed, Ne.symm slash]
            · exact inductionHypothesis (List.mem_cons_of_mem _ inLater)

/-- What has no slash goes on with the last part of a path. -/
theorem split_append (front : List Char) {back : List Char} (unslashed : '/' ∉ back) :
    ∃ earlier last, split front = earlier ++ [last] ∧
      split (front ++ back) = earlier ++ [last ++ back] := by
  induction front with
  | nil =>
      refine ⟨[], [], rfl, ?_⟩
      rw [List.nil_append, split_eq_splitOn, List.splitOn_eq_singleton unslashed]
      rfl
  | cons character rest inductionHypothesis =>
      obtain ⟨earlier, last, parts, longer⟩ := inductionHypothesis
      by_cases slash : character = '/'
      · exact ⟨[] :: earlier, last, by simp [split, slash, parts], by simp [split, slash, longer]⟩
      · cases earlier with
        | nil => exact ⟨[], character :: last, by simp [split, slash, parts],
            by simp [split, slash, longer]⟩
        | cons first later => exact ⟨(character :: first) :: later, last,
            by simp [split, slash, parts], by simp [split, slash, longer]⟩

theorem components_of_unslashed {name : String} (unslashed : '/' ∉ name.toList) :
    components name = [name] := by
  rw [components, split_eq_splitOn, List.splitOn_eq_singleton unslashed, List.map_singleton,
    String.ofList_toList]

/-- The components of two paths with a slash between them are those of both. -/
theorem components_append_slash (front back : String) :
    components (front ++ "/" ++ back) = components front ++ components back := by
  have characters : (front ++ "/" ++ back).toList = front.toList ++ '/' :: back.toList := by simp
  simp only [components, split_eq_splitOn, characters, List.splitOn_append_cons_self,
    List.map_append]

theorem slash_notMem_of_mem_components {path component : String}
    (listed : component ∈ components path) : '/' ∉ component.toList := by
  obtain ⟨part, isPart, rfl⟩ := List.mem_map.mp listed
  rw [String.toList_ofList]
  exact slash_notMem_of_mem_split isPart

/-- What has no slash goes on with the last component of a path. -/
theorem components_append (front : String) {back : String} (unslashed : '/' ∉ back.toList) :
    ∃ last, '/' ∉ last.toList ∧
      components (front ++ back) = (components front).dropLast ++ [last ++ back] := by
  obtain ⟨earlier, last, parts, longer⟩ := split_append front.toList unslashed
  have listed : String.ofList last ∈ components front := by
    rw [components, parts]
    simp
  refine ⟨String.ofList last, slash_notMem_of_mem_components listed, ?_⟩
  have ended : String.ofList (last ++ back.toList) = String.ofList last ++ back := by
    rw [String.ofList_append, String.ofList_toList]
  rw [components, components, String.toList_append, longer, parts, List.map_append,
    List.map_append, List.map_singleton, List.map_singleton, List.dropLast_concat, ended]

/-- A name leads to something in a directory when it has no slash and neither stays in the directory
nor leaves it. -/
structure IsName (name : String) : Prop where
  unslashed : '/' ∉ name.toList
  busy : isIdle name = false
  downward : name ≠ ".."

/-- A name leads to the place right below the one that it is followed from. -/
theorem IsName.enter {name : String} (isName : IsName name) (place : List String) :
    Path.enter place name = place ++ [name] := by
  simp [Path.enter, isName.busy, isName.downward]

/-- A path leads to a child of a directory when it goes on with one name behind the directory. -/
def IsChild (directory path : String) : Prop :=
  ∃ name, IsName name ∧
    path = if directory = "/" then directory ++ name else directory ++ "/" ++ name

/-- A name without a slash is joined from no other components. -/
theorem eq_of_intercalate_unslashed {name : String} {parts : List String} (named : name ≠ "")
    (unslashed : '/' ∉ name.toList) (joined : "/".intercalate parts = name) : parts = [name] := by
  subst joined
  match parts with
  | [] => exact absurd rfl named
  | [only] => simp
  | first :: second :: rest => simp [String.toList_intercalate] at unslashed

/-- A relative path behind a directory leads to a child of it exactly when all of its components but
one are idle and that one does not lead upwards. -/
theorem isChild_join_iff {directory path : String} (relative : isAbsolute path = false) :
    IsChild directory (join directory path) ↔
      ∃ name, name ≠ ".." ∧
        (components path).filter (fun component => !isIdle component) = [name] := by
  have isRelative : ¬ isAbsolute path = true := Bool.eq_false_iff.mp relative
  rw [join, if_neg isRelative]
  constructor
  · intro child
    obtain ⟨name, isName, same⟩ := child
    have kept : "/".intercalate ((components path).filter fun component => !isIdle component) =
        name := by
      split at same
      · exact String.append_right_inj _ |>.mp same
      · exact String.append_right_inj _ |>.mp same
    have named : name ≠ "" := by
      intro empty
      exact absurd isName.busy (by rw [empty]; decide)
    exact ⟨name, isName.downward, eq_of_intercalate_unslashed named isName.unslashed kept⟩
  · intro single
    obtain ⟨name, downward, kept⟩ := single
    have member : name ∈ (components path).filter fun component => !isIdle component :=
      kept ▸ List.mem_singleton_self name
    obtain ⟨listed, busy⟩ := List.mem_filter.mp member
    have isName : IsName name :=
      ⟨slash_notMem_of_mem_components listed, by simpa using busy, downward⟩
    refine ⟨name, isName, ?_⟩
    rw [kept, String.intercalate_singleton]

/-- A suffix ends a name when it has no slash and its last character is no dot. -/
structure EndsName (suffix : String) : Prop where
  unslashed : '/' ∉ suffix.toList
  undotted : ∃ last ∈ suffix.toList.getLast?, last ≠ '.'

/-- With such a suffix a component is neither idle nor leads upwards. -/
theorem EndsName.isName_append {suffix : String} (ends : EndsName suffix) {start : String}
    (unslashed : '/' ∉ start.toList) : IsName (start ++ suffix) := by
  obtain ⟨last, isLast, undotted⟩ := ends.undotted
  have ending : (start ++ suffix).toList.getLast? = some last := by
    rw [String.toList_append, List.getLast?_append, isLast]
    rfl
  have apart {other : String} (otherwise : other.toList.getLast? ≠ some last) :
      start ++ suffix ≠ other := by
    intro same
    exact otherwise (same ▸ ending)
  have dotted : some '.' ≠ some last := by
    intro same
    exact undotted (Option.some.inj same).symm
  refine ⟨?_, ?_, apart dotted⟩
  · rw [String.toList_append, List.mem_append, not_or]
    exact ⟨unslashed, ends.unslashed⟩
  · rw [isIdle, Bool.or_eq_false_iff, beq_eq_false_iff_ne, beq_eq_false_iff_ne]
    exact ⟨apart nofun, apart dotted⟩

/-- A file name with such a suffix leads to a child of the directory that it is put behind exactly
when all components of the file name but the last are idle. -/
theorem isChild_join_append_iff {directory fileName suffix : String} (ends : EndsName suffix)
    (relative : isAbsolute (fileName ++ suffix) = false) :
    IsChild directory (join directory (fileName ++ suffix)) ↔
      ∀ component ∈ (components fileName).dropLast, isIdle component = true := by
  obtain ⟨last, unslashed, parts⟩ := components_append fileName ends.unslashed
  have isName := ends.isName_append unslashed
  have kept : (components (fileName ++ suffix)).filter (fun component => !isIdle component) =
      (components fileName).dropLast.filter (fun component => !isIdle component) ++
        [last ++ suffix] := by
    rw [parts, List.filter_append]
    simp [isName.busy]
  have idle : (components fileName).dropLast.filter (fun component => !isIdle component) = [] ↔
      ∀ component ∈ (components fileName).dropLast, isIdle component = true := by
    simp [List.filter_eq_nil_iff]
  rw [isChild_join_iff relative, kept, ← idle]
  constructor
  · intro single
    obtain ⟨name, _, same⟩ := single
    rcases List.append_eq_singleton_iff.mp same with ⟨none, _⟩ | ⟨_, absent⟩
    · exact none
    · cases absent
  · intro none
    rw [none, List.nil_append]
    exact ⟨last ++ suffix, isName.downward, rfl⟩

theorem isAbsolute_append {front : String} (started : front ≠ "") (back : String) :
    isAbsolute (front ++ back) = isAbsolute front := by
  cases characters : front.toList with
  | nil => exact absurd (String.toList_eq_nil_iff.mp characters) started
  | cons first rest => simp [isAbsolute, characters]

end Path

namespace FileTree

/-- A path that leads somewhere is not empty, and the place can be told from its text. -/
theorem locate_eq_ok {tree : FileTree} {workingDirectory place : Place} {path : String}
    (located : tree.locate workingDirectory path = .ok place) :
    path ≠ "" ∧ place = (Path.components path).foldl Path.enter
      (if Path.isAbsolute path then [] else workingDirectory) := by
  rw [locate] at located
  split at located
  · cases located
  · split at located
    · cases located
    next started =>
      split at located
      · cases located
      · exact ⟨started, follow_eq_ok located⟩

/-- A path of a directory leads somewhere. -/
theorem exists_place_of_isDirectory {tree : FileTree} {workingDirectory : Place} {path : String}
    (isDirectory : tree.isDirectory workingDirectory path = true) :
    ∃ place, tree.locate workingDirectory path = .ok place := by
  rw [FileTree.isDirectory] at isDirectory
  split at isDirectory
  next place located => exact ⟨place, located⟩
  · cases isDirectory

/-- A path that leads to a child of a directory leads to a place right below that of the
directory. -/
theorem exists_name_of_isChild {tree : FileTree} {workingDirectory place reached : Place}
    {directory path : String} (child : Path.IsChild directory path)
    (located : tree.locate workingDirectory directory = .ok place)
    (locatedPath : tree.locate workingDirectory path = .ok reached) :
    ∃ name, reached = place ++ [name] := by
  obtain ⟨name, isName, rfl⟩ := child
  obtain ⟨started, rfl⟩ := locate_eq_ok located
  obtain ⟨_, rfl⟩ := locate_eq_ok locatedPath
  have alone := Path.components_of_unslashed isName.unslashed
  refine ⟨name, ?_⟩
  by_cases isRoot : directory = "/"
  · subst isRoot
    have parts : Path.components ("/" ++ name) = ["", name] := by
      have behind := Path.components_append_slash "" name
      rw [alone] at behind
      exact behind
    rw [if_pos rfl, parts, Path.isAbsolute_append (by decide)]
    exact isName.enter []
  · rw [if_neg isRoot, Path.components_append_slash, alone, List.foldl_append, String.append_assoc,
      Path.isAbsolute_append started]
    exact isName.enter _

end FileTree

end Exemplar
