import Nv12Jpeg.Encode.Options
import Nv12Jpeg.Fault
import Nv12Jpeg.FileStore

/-!
# Writing files one after the other

Creating a file changes one location and no directory, so paths lead where they led before. The
paths of numbered output files lead to locations of their own.

* `FileStore.ChangedAt` — a store that differs from another one at some locations only, and has the
  same directories; `ChangedAt.resolve_iff` says that paths lead to the same locations in both;
* `FileStore.create_ok` — what creating and filling a file changes;
* `FileStore.output_inj` — different frames go to different locations.
-/

namespace Nv12Jpeg.FileStore

theorem find?_put (store : FileStore) (location other : Location) (node : Node) :
    (store.put location node).find? other =
      if isGiven other then some .directory
      else if other = location then some node
      else store.find? other := by
  unfold find?
  by_cases given : isGiven other = true
  · rw [if_pos given, if_pos given]
  rw [if_neg given, if_neg given, put, List.lookup_cons]
  by_cases same : other = location
  · rw [if_pos same, same, beq_self_eq_true]
  · rw [if_neg same, beq_false_of_ne same, if_neg given]
    induction store.entries with
    | nil => rfl
    | cons entry entries ih =>
      by_cases replaced : entry.1 = location
      · have differs : (other == entry.1) = false := beq_false_of_ne (replaced ▸ same)
        rw [List.filter_cons_of_neg (by simp [replaced]), List.lookup_cons, differs]
        exact ih
      · rw [List.filter_cons_of_pos (by simp [replaced]), List.lookup_cons, List.lookup_cons]
        cases other == entry.1 with
        | true => rfl
        | false => exact ih

/-! ## Changes -/

/-- A store that differs from another one at these locations only, and has the same directories. -/
structure ChangedAt (locations : Location → Prop) (next store : FileStore) : Prop where
  directories : ∀ location, next.find? location = some .directory ↔
    store.find? location = some .directory
  others : ∀ location, ¬ locations location → next.find? location = store.find? location

namespace ChangedAt

variable {locations : Location → Prop} {first next store : FileStore}

theorem refl (store : FileStore) : ChangedAt locations store store :=
  ⟨fun _ => Iff.rfl, fun _ _ => rfl⟩

theorem trans (h : ChangedAt locations next first) (h' : ChangedAt locations first store) :
    ChangedAt locations next store where
  directories := fun location => (h.directories location).trans (h'.directories location)
  others := fun location outside => (h.others location outside).trans (h'.others location outside)

theorem symm (h : ChangedAt locations next store) : ChangedAt locations store next where
  directories := fun location => (h.directories location).symm
  others := fun location outside => (h.others location outside).symm

theorem mono {locations' : Location → Prop} (h : ChangedAt locations next store)
    (within : ∀ location, locations location → locations' location) :
    ChangedAt locations' next store where
  directories := h.directories
  others := fun location outside => h.others location fun inside => outside (within _ inside)

theorem walk_ok (h : ChangedAt locations next store) {directory location : Location}
    {names : List String} (walked : store.walk directory names = .ok location) :
    next.walk directory names = .ok location := by
  induction names generalizing directory with
  | nil => exact walked
  | cons name rest ih =>
    cases rest with
    | nil => exact walked
    | cons second rest =>
      obtain ⟨inner, entered, walked⟩ := bind_eq_ok.1 walked
      refine bind_eq_ok.2 ⟨inner, entered, ?_⟩
      cases found : store.find? inner with
      | none =>
        rw [found] at walked
        cases walked
      | some node =>
        rw [found] at walked
        cases node with
        | file contents => cases walked
        | directory =>
          rw [(h.directories inner).2 found]
          exact ih walked

/-- A path leads to the same location in both stores. -/
theorem resolve_iff (h : ChangedAt locations next store) {path : String} {location : Location} :
    next.resolve path = .ok location ↔ store.resolve path = .ok location := by
  unfold resolve
  by_cases null : '\x00' ∈ path.toList
  · rw [if_pos null, if_pos null]
  rw [if_neg null, if_neg null]
  by_cases long : pathLimit ≤ path.utf8ByteSize
  · rw [if_pos long, if_pos long]
  rw [if_neg long, if_neg long]
  by_cases empty : path = ""
  · rw [if_pos empty, if_pos empty]
  · rw [if_neg empty, if_neg empty]
    exact ⟨h.symm.walk_ok, h.walk_ok⟩

end ChangedAt

/-- What creating a file and filling it changes. -/
theorem create_ok {store next : FileStore} {path : String} {location : Location}
    (h : store.create path = .ok (location, next)) (contents : Bytes) :
    store.resolve path = .ok location ∧
      (next.fill location contents).find? location = some (.file contents) ∧
      ChangedAt (· = location) (next.fill location contents) store := by
  obtain ⟨location', resolved, h⟩ := bind_eq_ok.1 h
  by_cases slash : path.endsWith "/" = true
  · rw [if_pos slash] at h
    cases h
  rw [if_neg slash] at h
  -- Whatever was there, the store is the one with the file put in twice, but for the room.
  obtain ⟨rfl, plain, filled⟩ : location' = location ∧ store.find? location' ≠ some .directory ∧
      ∀ other, (next.fill location contents).find? other
        = ((store.put location (.file #[])).put location (.file contents)).find? other := by
    cases found : store.find? location' with
    | none =>
      rw [found] at h
      cases h
      exact ⟨rfl, nofun, fun _ => rfl⟩
    | some node =>
      rw [found] at h
      cases node with
      | directory => cases h
      | file old =>
        cases h
        exact ⟨rfl, nofun, fun _ => rfl⟩
  have ungiven : ¬ isGiven location' = true := fun given => plain (if_pos given)
  refine ⟨resolved, ?_, ?_, ?_⟩
  · rw [filled, find?_put, if_neg ungiven, if_pos rfl]
  · intro other
    rw [filled, find?_put, find?_put]
    by_cases given : isGiven other = true
    · rw [if_pos given, find?, if_pos given]
    · rw [if_neg given]
      by_cases same : other = location'
      · rw [if_pos same, same]
        exact ⟨nofun, fun directory => absurd directory plain⟩
      · rw [if_neg same, if_neg given, if_neg same]
  · intro other differs
    rw [filled, find?_put, find?_put, if_neg differs, if_neg differs]
    by_cases given : isGiven other = true
    · rw [if_pos given, find?, if_pos given]
    · rw [if_neg given, if_neg given]

/-! ## What can be created, and what can be read -/

/-- Whether a file can be created under a path. -/
def Creatable (store : FileStore) (path : String) : Prop := ∃ file, store.create path = .ok file

/-- A file can be created wherever there is a place for it that is not a directory. -/
theorem creatable_iff {store : FileStore} {path : String} :
    store.Creatable path ↔ ∃ location, store.resolve path = .ok location ∧
      ¬ path.endsWith "/" = true ∧ store.find? location ≠ some .directory := by
  constructor
  · rintro ⟨file, created⟩
    obtain ⟨location, resolved, created⟩ := bind_eq_ok.1 created
    refine ⟨location, resolved, ?_⟩
    by_cases slash : path.endsWith "/" = true
    · rw [if_pos slash] at created
      cases created
    · refine ⟨slash, fun directory => ?_⟩
      rw [if_neg slash, directory] at created
      cases created
  · rintro ⟨location, resolved, slash, plain⟩
    cases found : store.find? location with
    | none => exact ⟨_, bind_eq_ok.2 ⟨location, resolved, by rw [if_neg slash, found]⟩⟩
    | some node =>
      cases node with
      | directory => exact absurd found plain
      | file old => exact ⟨_, bind_eq_ok.2 ⟨location, resolved, by rw [if_neg slash, found]⟩⟩

theorem ChangedAt.creatable {locations : Location → Prop} {next store : FileStore} {path : String}
    (h : ChangedAt locations next store) (creatable : store.Creatable path) :
    next.Creatable path := by
  obtain ⟨location, resolved, slash, plain⟩ := creatable_iff.1 creatable
  exact creatable_iff.2 ⟨location, h.resolve_iff.2 resolved, slash,
    fun directory => plain ((h.directories location).1 directory)⟩

/-- A file that lies elsewhere is opened as before. -/
theorem ChangedAt.openRead {locations : Location → Prop} {next store : FileStore} {path : String}
    {location : Location} (h : ChangedAt locations next store)
    (opened : store.openRead path = .ok location) (outside : ¬ locations location) :
    next.openRead path = .ok location := by
  obtain ⟨location', resolved, opened⟩ := bind_eq_ok.1 opened
  have same : location' = location := by
    cases found : store.find? location' with
    | none =>
      rw [found] at opened
      cases opened
    | some node =>
      rw [found] at opened
      cases node with
      | directory => exact Except.ok.inj opened
      | file contents =>
        dsimp only at opened
        split at opened
        · cases opened
        · exact Except.ok.inj opened
  subst same
  refine bind_eq_ok.2 ⟨location', h.resolve_iff.2 resolved, ?_⟩
  rw [h.others _ outside]
  exact opened

/-- Whether as many more bytes can be stored. -/
def HasRoom (store : FileStore) (count : Nat) : Prop :=
  ∀ room, store.room = some room → count ≤ room

/-- Emptying a file takes no room. -/
theorem HasRoom.create {store next : FileStore} {path : String} {location : Location} {count : Nat}
    (h : store.HasRoom count) (created : store.create path = .ok (location, next)) :
    next.HasRoom count := by
  obtain ⟨location', _, created⟩ := bind_eq_ok.1 created
  split at created
  · cases created
  · split at created
    · cases created
    · cases created
      intro room room_eq
      obtain ⟨less, less_eq, rfl⟩ := Option.map_eq_some_iff.1 room_eq
      exact Nat.le_trans (h less less_eq) (Nat.le_add_right _ _)
    · cases created
      exact h

/-- What a file takes is missing afterwards. -/
theorem HasRoom.fill {store : FileStore} {contents : Bytes} {count : Nat}
    (h : store.HasRoom (contents.size + count)) (location : Location) :
    (store.fill location contents).HasRoom count := by
  intro room room_eq
  obtain ⟨more, more_eq, rfl⟩ := Option.map_eq_some_iff.1 room_eq
  have := h more more_eq
  omega

/-- A file has no more bytes than all files together. -/
theorem size_le_size {store : FileStore} {location : Location} {contents : Bytes}
    (found : store.find? location = some (.file contents)) : contents.size ≤ store.size := by
  unfold find? at found
  split at found
  · cases found
  · unfold size
    revert found
    induction store.entries with
    | nil => nofun
    | cons entry entries ih =>
      intro found
      rw [List.lookup_cons] at found
      rw [List.foldr_cons]
      split at found
      · rw [Option.some.inj found]
        exact Nat.le_add_right _ _
      · exact Nat.le_trans (ih found) (Nat.le_add_left _ _)

theorem size_contents_le {store : FileStore} {location : Location} {bytes : Bytes}
    (opened : store.contents location = .ok bytes) : bytes.size ≤ store.size := by
  unfold contents at opened
  split at opened
  · rename_i found
    cases opened
    exact size_le_size found
  · cases opened
  · cases opened
    exact Nat.zero_le _

/-! ## Output files -/

/-- The last name of a path in a directory is the name that was joined to it. -/
theorem names_join {directory name : String} (plain : '/' ∉ name.toList) :
    ∃ before, (names (join directory name)).filter (· ≠ "")
      = before ++ [name].filter (· ≠ "") := by
  have last : names name = [name] := by
    rw [names, List.splitOn_eq_singleton plain, List.map_singleton, String.ofList_toList]
  have joined : ∀ before : List Char,
      ((before ++ '/' :: name.toList).splitOn '/').map String.ofList
        = (before.splitOn '/').map String.ofList ++ [name] := by
    intro before
    rw [List.splitOn_append_cons_self, List.map_append, List.splitOn_eq_singleton plain,
      List.map_singleton, String.ofList_toList]
  unfold join
  by_cases here : directory = ""
  · rw [if_pos here, last]
    exact ⟨[], rfl⟩
  rw [if_neg here]
  by_cases slash : directory.endsWith "/" = true
  · rw [if_pos slash]
    obtain ⟨before, ends⟩ := String.Slice.endsWith_string_iff.1 slash
    rw [String.copy_toSlice] at ends
    refine ⟨((before.splitOn '/').map String.ofList).filter (· ≠ ""), ?_⟩
    rw [← List.filter_append, ← joined, names, String.toList_append, ← ends, List.append_assoc]
    rfl
  · rw [if_neg slash]
    refine ⟨((directory.toList.splitOn '/').map String.ofList).filter (· ≠ ""), ?_⟩
    rw [← List.filter_append, ← joined, names]
    simp

/-- A walk that ends with a plain name ends at a location of that name. -/
theorem walk_append_singleton {store : FileStore} {directory location : Location}
    {before : List String} {name : String} (plain : name ≠ "." ∧ name ≠ "..")
    (h : store.walk directory (before ++ [name]) = .ok location) :
    location.getLast? = some name := by
  induction before generalizing directory with
  | nil =>
    change enter directory name = _ at h
    rw [enter, if_neg plain.1, if_neg plain.2] at h
    by_cases long : nameLimit < name.utf8ByteSize
    · rw [if_pos long] at h
      cases h
    · rw [if_neg long] at h
      cases h
      exact List.getLast?_concat
  | cons first before ih =>
    have longer : before ++ [name] ≠ [] := by simp
    obtain ⟨second, rest, split⟩ := List.exists_cons_of_ne_nil longer
    rw [List.cons_append, split] at h
    obtain ⟨inner, _, h⟩ := bind_eq_ok.1 h
    cases found : store.find? inner with
    | none =>
      rw [found] at h
      cases h
    | some node =>
      rw [found] at h
      cases node with
      | file contents => cases h
      | directory => exact ih (split ▸ h)

theorem toList_outputFileName (frame : Nat) :
    (outputFileName frame).toList
      = "frame".toList ++ Nat.toDigits 10 frame ++ ".jpg".toList := by
  show ("frame" ++ frame.repr ++ ".jpg").toList = _
  rw [String.toList_append, String.toList_append, Nat.toList_repr]

theorem outputFileName_inj {i j : Nat} (h : outputFileName i = outputFileName j) : i = j := by
  have chars := congrArg String.toList h
  rw [toList_outputFileName, toList_outputFileName] at chars
  have digits := List.append_cancel_left (List.append_cancel_right chars)
  rw [← Nat.ofDigitChars_ten_toDigits (n := i), digits, Nat.ofDigitChars_ten_toDigits]

theorem slash_not_mem_outputFileName (frame : Nat) : '/' ∉ (outputFileName frame).toList := by
  rw [toList_outputFileName]
  simp only [List.mem_append, not_or]
  refine ⟨⟨by decide, fun digit => ?_⟩, by decide⟩
  have := Nat.isDigit_of_mem_toDigits (by decide) (by decide) digit
  exact absurd this (by decide)

theorem outputFileName_ne (frame : Nat) {name : String} (short : name.toList.length < 5) :
    outputFileName frame ≠ name := by
  rintro rfl
  rw [toList_outputFileName, List.length_append, List.length_append] at short
  have : "frame".toList.length = 5 := by decide
  omega

/-- The file of a frame goes to a location of its name. -/
theorem getLast?_resolve_output {store : FileStore} {directory : String} {frame : Nat}
    {location : Location}
    (h : store.resolve (join directory (outputFileName frame)) = .ok location) :
    location.getLast? = some (outputFileName frame) := by
  obtain ⟨before, last⟩ := @names_join directory _ (slash_not_mem_outputFileName frame)
  have named : [outputFileName frame].filter (· ≠ "") = [outputFileName frame] := by
    rw [List.filter_cons_of_pos]
    · rfl
    · exact decide_eq_true (outputFileName_ne frame (by decide))
  rw [named] at last
  unfold resolve at h
  split at h
  · cases h
  split at h
  · cases h
  split at h
  · cases h
  · rw [last] at h
    exact walk_append_singleton ⟨outputFileName_ne frame (by decide),
      outputFileName_ne frame (by decide)⟩ h

/-- The files of different frames go to different locations. -/
theorem output_inj {store : FileStore} {directory : String} {i j : Nat} {location : Location}
    (hi : store.resolve (join directory (outputFileName i)) = .ok location)
    (hj : store.resolve (join directory (outputFileName j)) = .ok location) : i = j := by
  have names := (getLast?_resolve_output hi).symm.trans (getLast?_resolve_output hj)
  exact outputFileName_inj (Option.some.inj names)

end Nv12Jpeg.FileStore
