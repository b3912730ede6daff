import SceneSketch.Command.Workspace
import SceneSketch.Proofs.Sequences

/-!
# Reading what was written

A path is walked part by part, and a file that is written stands at the end of its path, where no
folder was. So the folders on the way stay folders, and the path leads to the file
(`Workspace.read_write`).
-/

namespace SceneSketch

/-! ## Parts of a path -/

/-- A part that leads somewhere: it is not empty, no single dot and has no slash. -/
structure IsPart (part : String) : Prop where
  nonempty : part.toList ≠ []
  dot : part.toList ≠ ['.']
  single : '/' ∉ part.toList

theorem not_mem_of_mem_splitOn {d : Char} {cs : List Char} : ∀ part ∈ cs.splitOn d, d ∉ part := by
  induction cs with
  | nil => simp
  | cons c cs ih =>
    rw [List.splitOn_cons_eq_if_modifyHead]
    split
    · exact List.forall_mem_cons.mpr ⟨List.not_mem_nil, ih⟩
    · next other =>
      cases hs : cs.splitOn d with
      | nil => exact absurd hs (List.splitOn_ne_nil d cs)
      | cons first rest =>
        obtain ⟨hfirst, hrest⟩ := List.forall_mem_cons.mp (hs ▸ ih)
        refine List.forall_mem_cons.mpr ⟨?_, hrest⟩
        simpa using ⟨fun e : d = c => other (by simp [e]), hfirst⟩

theorem isPart_of_mem {path part : String} (h : part ∈ pathParts path) : IsPart part := by
  obtain ⟨cs, hcs, rfl⟩ := List.mem_map.mp h
  obtain ⟨piece, shape⟩ := List.mem_filter.mp hcs
  have shape : cs ≠ [] ∧ cs ≠ ['.'] := by simpa using shape
  exact ⟨by simpa using shape.1,
    by simpa using shape.2, by simpa using not_mem_of_mem_splitOn cs piece⟩

/-! ## Places -/

namespace Place

/-- The places that paths lead to. -/
inductive Reached : Place → Prop
  | here : Reached []
  | root : Reached ["/"]
  | inside {place : Place} {part : String} : Reached place → IsPart part → Reached (part :: place)

theorem reached_start (path : String) : Reached (start path) := by
  unfold start
  split
  · exact .root
  · exact .here

theorem Reached.enter {place : Place} {part : String} (h : Reached place) (hpart : IsPart part) :
    Reached (place.enter part) := by
  unfold Place.enter
  split
  · next dots =>
    subst dots
    cases h with
    | here => exact .inside .here hpart
    | root => exact .root
    | inside h hlatest =>
      dsimp only
      split
      · exact .inside h hlatest
      · split
        · exact .inside (.inside h hlatest) hpart
        · exact h
  · exact .inside h hpart

/-- Letters between slashes that lead nowhere further down. -/
def leadsUp (letters : List Char) : Bool :=
  letters = [] || letters = ['.'] || letters = ['.', '.']

theorem leadsUp_part {part : String} (h : IsPart part) :
    leadsUp part.toList = (part = ".." || part = "/" : Bool) := by
  have up : part.toList = ['.', '.'] ↔ part = ".." := @String.toList_inj part ".."
  have slash : part ≠ "/" := by
    rintro rfl
    exact h.single (by simp)
  simp [leadsUp, h.nonempty, h.dot, up, slash]

theorem text_inside (part latest : String) (rest : Place) : text (part :: latest :: rest) =
    if text (latest :: rest) = "/" then "/" ++ part else text (latest :: rest) ++ "/" ++ part := by
  rw [text]
  · split
    · next h => rw [h]
    · rfl
  · simp

theorem Reached.isAbove_eq {place : Place} (h : Reached place) :
    place.isAbove = (place.text.toList.splitOn '/').all leadsUp := by
  induction h with
  | here => decide
  | root => decide
  | @inside place part _ hpart ih =>
    have last : part.toList.splitOn '/' = [part.toList] := List.splitOn_eq_singleton hpart.single
    have above : isAbove (part :: place) = (place.isAbove && leadsUp part.toList) := by
      rw [leadsUp_part hpart, Bool.and_comm]
      rfl
    rw [above]
    cases place with
    | nil => simp [text, last, isAbove]
    | cons latest rest =>
      -- behind the root the part follows the one slash of its text, and elsewhere a slash of its
      -- own
      have joined (folder : List Char) : ((folder ++ '/' :: part.toList).splitOn '/').all leadsUp =
          ((folder.splitOn '/').all leadsUp && leadsUp part.toList) := by
        simp [List.splitOn_append_cons_self, last]
      rw [ih, text_inside]
      split
      · next folder =>
        have slash : ("/" ++ part).toList = [] ++ '/' :: part.toList := by simp
        rw [folder, slash, joined]
        rfl
      · simpa using (joined (text (latest :: rest)).toList).symm

theorem Reached.isAbove_congr {place other : Place} (h : Reached place) (ho : Reached other)
    (text : place.text = other.text) : place.isAbove = other.isAbove := by
  rw [h.isAbove_eq, ho.isAbove_eq, text]

end Place

/-! ## Files -/

namespace Workspace

variable {w after : Workspace} {path : String} {bytes : ByteArray}

theorem lookup_cons_eq (f : String × ByteArray) (files : List (String × ByteArray))
    (other : String) :
    (f :: files).lookup other = if other = f.1 then some f.2 else files.lookup other := by
  rw [List.lookup_cons]
  by_cases h : other = f.1
  · simp [h]
  · rw [beq_false_of_ne h, if_neg h]

theorem lookup_replaced (path : String) (bytes : ByteArray) (files : List (String × ByteArray))
    (other : String) :
    (files.map fun f => if f.1 = path then (path, bytes) else f).lookup other =
      if other = path then (files.lookup path).map fun _ => bytes else files.lookup other := by
  induction files with
  | nil => simp
  | cons f files ih =>
    rw [List.map_cons, lookup_cons_eq, lookup_cons_eq, lookup_cons_eq, ih]
    by_cases hf : f.1 = path
    · by_cases ho : other = path <;> simp [hf, ho]
    · by_cases ho : other = path <;> simp [hf, ho, Ne.symm hf]

theorem lookup_put (w : Workspace) (path : String) (bytes : ByteArray) (other : String) :
    (w.put path bytes).files.lookup other = if other = path then some bytes
    else w.files.lookup other := by
  unfold put
  split
  · next known =>
    obtain ⟨f, hf, same⟩ := List.any_eq_true.mp known
    cases hl : w.files.lookup path with
    | none =>
      exact absurd (of_decide_eq_true same).symm
        (bne_iff_ne.mp (List.lookup_eq_none_iff.mp hl f hf))
    | some old => rw [lookup_replaced, hl, Option.map_some]
  · next unknown =>
    have unlisted : w.files.lookup path = none := List.lookup_eq_none_iff.mpr fun f hf =>
      bne_iff_ne.mpr fun same => unknown (List.any_eq_true.mpr ⟨f, hf, decide_eq_true same.symm⟩)
    rw [List.lookup_append, lookup_cons_eq, List.lookup_nil]
    split
    · next same => rw [same, unlisted, Option.none_or]
    · exact Option.or_none

theorem names_put (w : Workspace) (path : String) (bytes : ByteArray) :
    w.files.map Prod.fst <+: (w.put path bytes).files.map Prod.fst := by
  unfold put
  split
  · have names : (w.files.map fun f => if f.1 = path then (path, bytes) else f).map Prod.fst =
        w.files.map Prod.fst := by
      rw [List.map_map]
      refine List.map_congr_left fun f _ => ?_
      rw [Function.comp_apply]
      split
      · next same => exact same.symm
      · rfl
    exact names.symm ▸ List.prefix_rfl
  · simp

theorem isFolder_iff {place : Place} : w.isFolder place = true ↔
    place.isAbove = true ∨ place.text ∈ w.folders ∨
      ∃ name ∈ w.files.map Prod.fst, (place.text ++ "/").toList <+: name.toList := by
  simp [isFolder, or_assoc]

theorem isFolder_put {place : Place} (h : w.isFolder place = true) :
    (w.put path bytes).isFolder place = true := by
  have folders : (w.put path bytes).folders = w.folders := by
    unfold put
    split <;> rfl
  rw [isFolder_iff] at h ⊢
  rw [folders]
  refine h.imp_right fun h => h.imp_right ?_
  rintro ⟨name, hname, inside⟩
  exact ⟨name, (w.names_put path bytes).subset hname, inside⟩

/-- What is at a place depends on its text only. -/
theorem occupant_congr {place other : Place} (h : place.Reached) (ho : other.Reached)
    (text : place.text = other.text) : w.occupant place = w.occupant other := by
  rw [occupant, occupant, isFolder, isFolder, h.isAbove_congr ho text, text]

theorem occupant_put (w : Workspace) (place : Place) (bytes : ByteArray) :
    (w.put place.text bytes).occupant place = .file bytes := by
  rw [occupant, lookup_put, if_pos rfl]

theorem occupant_eq_folder {place : Place} :
    w.occupant place = .folder ↔ w.files.lookup place.text = none ∧ w.isFolder place = true := by
  unfold occupant
  cases w.files.lookup place.text with
  | some old => simp
  | none => simp

theorem occupant_put_folder {place target : Place} (h : place.Reached) (ht : target.Reached)
    (folder : w.occupant place = .folder) (free : w.occupant target ≠ .folder) :
    (w.put target.text bytes).occupant place = .folder := by
  have other : place.text ≠ target.text := fun text =>
    free ((occupant_congr ht h text.symm).trans folder)
  obtain ⟨unlisted, folder⟩ := occupant_eq_folder.mp folder
  refine occupant_eq_folder.mpr ⟨?_, isFolder_put folder⟩
  rw [lookup_put, if_neg other, unlisted]

theorem walk_reached {place target : Place} {parts : List String} (h : place.Reached)
    (hparts : ∀ part ∈ parts, IsPart part) (walked : w.walk place parts = .ok target) :
    target.Reached := by
  induction parts generalizing place with
  | nil =>
    cases walked
    exact h
  | cons part parts ih =>
    obtain ⟨hpart, hparts⟩ := List.forall_mem_cons.mp hparts
    rw [walk] at walked
    split at walked
    · cases walked
    · cases walked
    · split at walked
      · cases walked
      · exact ih (h.enter hpart) hparts walked

/-- The way to a file does not change when the file is written. -/
theorem walk_put {place target : Place} {parts : List String} (h : place.Reached)
    (hparts : ∀ part ∈ parts, IsPart part) (walked : w.walk place parts = .ok target)
    (free : w.occupant target ≠ .folder) :
    (w.put target.text bytes).walk place parts = .ok target := by
  have ht := walk_reached h hparts walked
  induction parts generalizing place with
  | nil => exact walked
  | cons part parts ih =>
    obtain ⟨hpart, hparts⟩ := List.forall_mem_cons.mp hparts
    rw [walk] at walked ⊢
    split at walked
    · cases walked
    · cases walked
    · next folder =>
      rw [occupant_put_folder h ht folder free]
      split at walked
      · cases walked
      · next short =>
        rw [if_neg short]
        exact ih (h.enter hpart) hparts walked

def Writable (w : Workspace) (path : String) : Prop :=
  ∃ target, w.find path = .ok target ∧ w.occupant target ≠ .folder

theorem write_eq_ok : w.write path bytes = .ok after ↔
    ∃ target, w.find path = .ok target ∧ w.occupant target ≠ .folder ∧
    w.put target.text bytes = after := by
  rw [write, bind_eq_ok]
  refine exists_congr fun target => and_congr_right fun _ => ?_
  cases w.occupant target <;> simp

theorem Writable.write (h : w.Writable path) (bytes : ByteArray) :
    ∃ after, w.write path bytes = .ok after := by
  obtain ⟨target, found, free⟩ := h
  exact ⟨_, write_eq_ok.mpr ⟨target, found, free, rfl⟩⟩

theorem find_put {target : Place} (found : w.find path = .ok target)
    (free : w.occupant target ≠ .folder) :
    (w.put target.text bytes).find path = .ok target := by
  unfold find at found ⊢
  split at found
  · cases found
  · next short =>
    rw [if_neg short]
    exact walk_put (Place.reached_start path) (fun _ => isPart_of_mem) found free

/-- **A file that was written is read as it was written.** -/
theorem read_write (h : w.write path bytes = .ok after) : after.read path = .ok bytes := by
  obtain ⟨target, found, free, rfl⟩ := write_eq_ok.mp h
  rw [read, find_put found free]
  simp only [Except.bind, occupant_put]

end Workspace

end SceneSketch
