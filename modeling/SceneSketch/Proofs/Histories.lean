import Mathlib.Data.List.Nodup
import Mathlib.Logic.Relation
import SceneSketch.Proofs.GivenValues
import SceneSketch.Scene.Check

/-!
# Scenes along a history

An edit adds elements, takes them away or reads them again. So whatever is true of all documents
stays true along a history that begins with one, as long as what edits bring has it: scenes stay
scenes of documents (`Scene.run_gives`), and they stay sound exactly if no update brings a value
that was built without that (`Scene.reachable_sound`). The checks of a scene hold along a history if
no edit gives an element a name that is empty or taken (`Scene.edits_keep_valid`).
-/

namespace SceneSketch

open Codec Outcome Record Relation

/-! ## Histories -/

namespace Scene

/-- The second scene is the first one after an edit that is allowed there. -/
def Edited (allowed : Scene → Edit → Prop) (s t : Scene) : Prop :=
  ∃ edit, allowed s edit ∧ edit.apply s = .accepted t

/-- What no allowed edit breaks holds along every history. -/
theorem run_invariant {allowed : Scene → Edit → Prop} {p : Scene → Prop}
    (step : ∀ s t edit, p s → allowed s edit → edit.apply s = .accepted t → p t)
    {start scene : Scene}
    (hs : p start) (run : ReflTransGen (Edited allowed) start scene) : p scene := by
  induction run with
  | refl => exact hs
  | tail _ last ih =>
    obtain ⟨edit, legal, applied⟩ := last
    exact step _ _ edit ih legal applied

def names (scene : Scene) : List Text :=
  scene.elements.map Element.id

theorem changeElements_eq_accepted {id : Text} {change : Element → Outcome Element}
    {es es' : List Element} : changeElements id change es = .accepted es' ↔
      List.Forall₂ (fun e e' => if e.id = id then change e = .accepted e' else e = e') es es' := by
  induction es generalizing es' with
  | nil => cases es' <;> simp [changeElements]
  | cons e es ih =>
    simp only [changeElements, bind_eq_accepted, map_eq_accepted, ih, List.forall₂_cons_left_iff]
    by_cases h : e.id = id
    · simp only [h, if_true]
      constructor
      · rintro ⟨e', he, rest, hrest, rfl⟩
        exact ⟨e', rest, he, hrest, rfl⟩
      · rintro ⟨e', rest, he, hrest, rfl⟩
        exact ⟨e', he, rest, hrest, rfl⟩
    · simp [h, eq_comm]

theorem rebuild_eq_accepted {s t : Scene} {id : Text} {updates : Updates} :
    s.rebuild id updates = .accepted t ↔ ∃ elements, { s with elements } = t ∧
      List.Forall₂ (fun e e' => if e.id = id then e.rebuild updates = .accepted e' else e = e')
        s.elements elements := by
  simp only [rebuild, map_eq_accepted, changeElements_eq_accepted, and_comm]

end Scene

/-! ## Scenes of documents -/

namespace Scene

theorem read_eq_accepted {m : Members} {s : Scene} : Scene.record.read m = .accepted s ↔
    (Record.required "canvas" Canvas.codec Scene.canvas).read m = .accepted s.canvas ∧
    (Record.optional ⟨"colorMode", "color_mode"⟩ (.choice [.rgb, .hsb] ColorMode.name)
      Scene.colorMode).read m = .accepted s.colorMode ∧
    (Record.optional ⟨"frameRate", "frame_rate"⟩ .number Scene.frameRate).read m =
      .accepted s.frameRate ∧
    (Record.defaulted "elements" (.list Element.codec) [] Scene.elements).read m =
      .accepted s.elements ∧
    (Record.optional "effects" (.list Effect.codec) Scene.effects).read m =
      .accepted s.effects := by
  cases s
  simp [Scene.record, read_map, read_seq, and_assoc]

section
variable {σ α : Type} {key : Key} {c : Codec α} {m : Members} {k : String} {value : Json}

end

theorem gives_elements {scene : Scene} (h : Scene.codec.Gives scene) :
    ∀ e ∈ scene.elements, Element.codec.Gives e := by
  obtain ⟨j, hj⟩ := h
  have element (j : Json) : (Element.codec.read j).ComesTo Element.codec.Gives
      (j.blockKinds.findSome? Json.container?) :=
    (Element.read_comesTo j).imp fun e he _ => ⟨j, he⟩
  cases j with
  | obj m =>
    obtain ⟨_, _, _, helements, _⟩ := Scene.read_eq_accepted.mp hj
    exact (comesTo_defaulted (comesTo_list element) (List.forall_mem_nil _) m).of_accepted helements
  | _ => cases hj

theorem read_empty {m : Members} {canvas : Canvas} (h : Canvas.record.read m = .accepted canvas) :
    Scene.codec.read (.obj [("canvas", .obj m)]) = .accepted { canvas } :=
  Scene.read_eq_accepted.mpr ⟨under_eq_accepted.mpr h, rfl, rfl, rfl, rfl⟩

theorem gives_create {settings : Settings} {width height : Json} {scene : Scene}
    (h : Scene.create settings width height = .accepted scene) : Scene.codec.Gives scene := by
  obtain ⟨canvas, hcanvas, rfl⟩ := map_eq_accepted.mp h
  exact ⟨_, read_empty hcanvas⟩

/-- A scene that a history can begin with: one of a document, or a new one. -/
def Begins (scene : Scene) : Prop :=
  Scene.codec.Gives scene ∨ ∃ settings width height, Scene.create settings width height =
    .accepted scene

theorem Begins.gives {scene : Scene} (begins : scene.Begins) : Scene.codec.Gives scene := by
  obtain given | ⟨_, _, _, created⟩ := begins
  · exact given
  · exact gives_create created

end Scene

namespace Scene

end Scene

/-! ## Sound scenes -/

def Edit.AddsParsed : Edit → Prop
  | add element => Element.codec.Gives element
  | remove _ | update _ _ => True

/-- Besides, what is built for elements of the scene is sound. -/
def Edit.KeepsSound (scene : Scene) (edit : Edit) : Prop :=
  edit.AddsParsed ∧ ∀ id updates, edit = .update id updates → id ∈ scene.names → updates.Sound

namespace Scene

theorem Sound.with {scene : Scene} (h : scene.Sound) {elements : List Element}
    (he : ∀ e ∈ elements, e.Sound) : Sound { scene with elements } :=
  ⟨h.canvas, h.rate, he, h.effects⟩

/-- **An update of a sound scene gives a sound scene exactly if what is built for its elements is
sound.** -/
theorem sound_iff_of_rebuild {s t : Scene} {id : Text} {updates : Updates} (h : s.Sound)
    (applied : s.rebuild id updates = .accepted t) :
    t.Sound ↔ (id ∈ s.names → updates.Sound) := by
  obtain ⟨elements, rfl, each⟩ := rebuild_eq_accepted.mp applied
  constructor
  · intro sound named
    obtain ⟨e, he, own⟩ := List.mem_map.mp named
    have updated : ∀ e ∈ s.elements, e.id = id → updates.Sound := by
      refine forall_of_forall₂ each.flip fun e' he' e rebuilt own => ?_
      have rebuilt := (if_pos own).mp rebuilt
      exact (Element.sound_iff_of_rebuild rebuilt).mp (sound.elements e' he')
    exact updated e he own
  · intro built
    refine h.with (forall_of_forall₂ each fun e he e' he' => ?_)
    split at he'
    · next own =>
      exact (Element.sound_iff_of_rebuild he').mpr (built (own ▸ List.mem_map_of_mem he))
    · exact he' ▸ h.elements e he

theorem Sound.edit {s t : Scene} {edit : Edit} (h : s.Sound) (keeps : edit.KeepsSound s)
    (applied : edit.apply s = .accepted t) : t.Sound := by
  obtain ⟨parsed, built⟩ := keeps
  cases edit with
  | add element =>
    obtain rfl : s.add element = t := accepted.inj applied
    obtain ⟨document, read⟩ := parsed
    have sound := (Element.read_comesTo document).of_accepted read
    exact h.with (List.forall_mem_append.mpr ⟨h.elements, List.forall_mem_singleton.mpr sound⟩)
  | remove id =>
    obtain rfl : s.remove id = t := accepted.inj applied
    exact h.with fun e he => h.elements e (List.mem_of_mem_filter he)
  | update id updates => exact (sound_iff_of_rebuild h applied).mpr (built id updates rfl)

theorem Begins.sound {scene : Scene} (begins : scene.Begins) : scene.Sound := by
  obtain ⟨document, read⟩ := begins.gives
  exact (Scene.read_comesTo document).of_accepted read

/-- **Along a history all numbers are finite, stroke weights are positive, blocks move along `x` or
`y`, and no block of an unknown kind has the name of a known one, as long as what updates build for
elements of the scene is sound. Where it is not, the next scene is not sound either.** -/
theorem reachable_sound {start scene : Scene} (begins : start.Begins)
    (run : ReflTransGen (Edited Edit.KeepsSound) start scene) : scene.Sound ∧
      ∀ id updates t, scene.rebuild id updates = .accepted t →
        (t.Sound ↔ (id ∈ scene.names → updates.Sound)) := by
  have sound : scene.Sound :=
    run_invariant (fun _ _ _ h keeps applied => h.edit keeps applied) begins.sound run
  exact ⟨sound, fun _ _ _ applied => sound_iff_of_rebuild sound applied⟩

def dot (size : FiniteDouble) (id : Text) : Element where
  id := id
  shape := .circle ⟨.finite size, .finite size, .finite size⟩

def dotted (size : FiniteDouble) (id : Text) : Scene where
  canvas := ⟨.finite size, .finite size⟩
  elements := [dot size id]

theorem begins_dotted (size : FiniteDouble) (id : Text) : (dotted size id).Begins :=
  .inl ⟨.obj [("canvas", .obj [("width", .num (.finite size)), ("height", .num (.finite size))]),
    ("elements", .arr [.obj [("id", .str id), ("type", .obj [("kind", .str "circle"),
      ("x", .num (.finite size)), ("y", .num (.finite size)),
      ("diameter", .num (.finite size))])]])], rfl⟩

theorem rename_dotted (size : FiniteDouble) (id name : Text) :
    (dotted size id).rebuild id { id := some (.str name) } = .accepted (dotted size name) := by
  rw [rebuild, dotted, changeElements, dot, if_pos rfl]
  rfl

def boundless (size : FiniteDouble) : Updates where
  shape := some (.built (.circle ⟨.finite size, .finite size, .infinite false⟩))

theorem not_sound_boundless (size : FiniteDouble) : ¬ (boundless size).Sound := fun sound =>
  absurd (sound.shape _ rfl) (by simp [Given.IfBuilt, Shape.numbers, Double.isFinite])

theorem exists_boundless (size : FiniteDouble) (id : Text) :
    ∃ t, (dotted size id).rebuild id (boundless size) = .accepted t := by
  rw [rebuild, dotted, changeElements, dot, if_pos rfl]
  exact ⟨_, rfl⟩

theorem reachable_sound_renaming : let size : FiniteDouble := ⟨false, 0, by decide⟩
    ReflTransGen (Edited Edit.KeepsSound) (dotted size "a") (dotted size "b") ∧
      (dotted size "b").Sound ∧
      ∃ t, (dotted size "b").rebuild "b" (boundless size) = .accepted t ∧ ¬ t.Sound := by
  intro size
  have keeps : Edit.KeepsSound (dotted size "a") (.update "a" { id := some (.str "b") }) := by
    refine ⟨trivial, ?_⟩
    rintro _ _ ⟨⟩ _
    constructor <;> simp
  have run : ReflTransGen (Edited Edit.KeepsSound) (dotted size "a") (dotted size "b") :=
    .single ⟨_, keeps, rename_dotted size "a" "b"⟩
  obtain ⟨sound, updates⟩ := reachable_sound (begins_dotted size "a") run
  obtain ⟨t, applied⟩ := exists_boundless size "b"
  refine ⟨run, sound, t, applied, fun unbroken => ?_⟩
  exact not_sound_boundless size ((updates _ _ _ applied).mp unbroken (List.mem_singleton_self _))

/-- A circle that is built without end is taken as it is. -/
theorem update_unsound : ¬ ∀ start scene : Scene, start.Begins →
    ReflTransGen (Edited fun _ => Edit.AddsParsed) start scene → scene.Sound := by
  intro sound
  let size : FiniteDouble := ⟨false, 0, by decide⟩
  have begins := begins_dotted size "a"
  obtain ⟨t, applied⟩ := exists_boundless size "a"
  have unbroken := sound _ t begins (.single ⟨.update "a" (boundless size), trivial, applied⟩)
  have built := (sound_iff_of_rebuild begins.sound applied).mp unbroken (List.mem_singleton_self _)
  exact not_sound_boundless size built

end Scene

/-! ## Names along a history -/

def renamed (updates : Updates) (id : Text) : Text :=
  match updates.id with
  | some (.str name) => name
  | _ => id

theorem renamed_cases (updates : Updates) (id : Text) :
    renamed updates id = id ∨ updates.id = some (.str (renamed updates id)) := by
  unfold renamed
  split
  · next h => exact .inr h
  · exact .inl rfl

theorem Element.id_of_rebuild {e e' : Element} {updates : Updates}
    (h : e.rebuild updates = .accepted e') : e'.id = renamed updates e.id := by
  obtain ⟨hid, _⟩ := Element.rebuild_eq_accepted.mp h
  unfold renamed
  cases hu : updates.id with
  | none => simpa [hu, Codec.text] using hid.symm
  | some value =>
    rw [hu] at hid
    cases value with
    | str name => exact (accepted.inj hid).symm
    | _ => cases hid

/-- The edit gives no element a name that is empty or that another element has. -/
def Edit.KeepsNames (scene : Scene) : Edit → Prop
  | add element => element.id ≠ "" ∧ ∀ e ∈ scene.elements, e.id ≠ element.id
  | remove _ => True
  | update id updates => ∀ name, updates.id = some (.str name) →
      name ≠ "" ∧ ∀ e ∈ scene.elements, e.id ≠ id → e.id ≠ name

theorem Double.not_isNonpositive {x : Double} (h : x.isPositive = true) :
    x.isNonpositive = false := by
  cases x with
  | nan => rfl
  | infinite negative => simpa [isPositive, isNonpositive] using h
  | finite x =>
    obtain ⟨positive, large⟩ : x.negative = false ∧ 0 < x.rank := by simpa [isPositive] using h
    simpa [isNonpositive, positive] using Nat.ne_of_gt large

namespace Scene

structure Valid (scene : Scene) : Prop where
  width : scene.canvas.width.isNonpositive = false
  height : scene.canvas.height.isNonpositive = false
  named : .unicode "" ∉ scene.names
  distinct : scene.names.Nodup

theorem canvasProblems_eq_nil {scene : Scene} : scene.canvasProblems = [] ↔
    scene.canvas.width.isNonpositive = false ∧ scene.canvas.height.isNonpositive = false := by
  simp [canvasProblems]

theorem missingIdProblems_eq_nil {scene : Scene} : scene.missingIdProblems = [] ↔
    .unicode "" ∉ scene.names := by
  simp [missingIdProblems, names]

theorem duplicateIdProblems_eq_nil {scene : Scene} :
    scene.duplicateIdProblems = [] ↔ (scene.names.filter (· ≠ .unicode "")).Nodup := by
  rw [duplicateIdProblems, List.map_eq_nil_iff, List.filter_eq_nil_iff, List.nodup_iff_count_le_one]
  simp only [List.mem_eraseDups, decide_eq_true_eq, Nat.not_lt]
  constructor
  · intro h id
    by_cases hid : id ∈ scene.names.filter (· ≠ .unicode "")
    · exact h id hid
    · rw [List.count_eq_zero_of_not_mem hid]
      exact Nat.zero_le 1
  · exact fun h id _ => h id

/-- **The checks of a scene find no problem exactly if it is valid.** -/
theorem problems_eq_nil {scene : Scene} : scene.problems = [] ↔ scene.Valid := by
  have all (named : .unicode "" ∉ scene.names) :
      scene.names.filter (· ≠ .unicode "") = scene.names :=
    List.filter_eq_self.mpr fun id hid => by simpa using fun e : id = .unicode "" => named (e ▸ hid)
  rw [problems, List.append_eq_nil_iff, List.append_eq_nil_iff, canvasProblems_eq_nil,
    missingIdProblems_eq_nil, duplicateIdProblems_eq_nil]
  constructor
  · rintro ⟨⟨⟨width, height⟩, named⟩, distinct⟩
    exact ⟨width, height, named, all named ▸ distinct⟩
  · rintro ⟨width, height, named, distinct⟩
    exact ⟨⟨⟨width, height⟩, named⟩, (all named).symm ▸ distinct⟩

theorem names_add (scene : Scene) (element : Element) :
    (scene.add element).names = scene.names ++ [element.id] :=
  List.map_append

theorem names_remove (scene : Scene) (id : Text) :
    (scene.remove id).names = scene.names.filter fun name => name ≠ id := by
  rw [names, names, List.filter_map]
  rfl

theorem names_rebuild {s t : Scene} {id : Text} {updates : Updates}
    (h : s.rebuild id updates = .accepted t) :
    t.names = s.names.map fun name => if name = id then renamed updates id else name := by
  obtain ⟨elements, rfl, each⟩ := rebuild_eq_accepted.mp h
  rw [names, names, List.map_map, eq_comm, ← List.forall₂_eq_eq_eq, List.forall₂_map_left_iff,
    List.forall₂_map_right_iff]
  refine each.imp fun e e' he => ?_
  dsimp only [Function.comp_apply]
  split at he
  · next own =>
    rw [if_pos own, Element.id_of_rebuild he, own]
  · next other => rw [if_neg other, he]

theorem Valid.add {scene : Scene} {element : Element} (h : scene.Valid) (named : element.id ≠ "")
    (new : ∀ e ∈ scene.elements, e.id ≠ element.id) : (scene.add element).Valid := by
  refine ⟨h.width, h.height, ?_, ?_⟩
  · simpa [names_add, h.named] using named.symm
  · rw [names_add, ← List.concat_eq_append]
    exact h.distinct.concat fun hm => by
      obtain ⟨e, he, same⟩ := List.mem_map.mp hm
      exact new e he same

theorem Valid.remove {scene : Scene} (h : scene.Valid) (id : Text) : (scene.remove id).Valid := by
  refine ⟨h.width, h.height, ?_, ?_⟩
  · exact names_remove scene id ▸ fun hm => h.named (List.mem_of_mem_filter hm)
  · exact names_remove scene id ▸ h.distinct.filter _

/-- Another name for one element is as good as the names before if no other element has it. -/
theorem Valid.rename {s t : Scene} (h : s.Valid) (canvas : t.canvas = s.canvas) {id name : Text}
    (renamed : t.names = s.names.map fun n => if n = id then name else n)
    (named : id ∈ s.names → name ≠ "") (free : ∀ n ∈ s.names, n ≠ id → n ≠ name) : t.Valid := by
  refine ⟨canvas ▸ h.width, canvas ▸ h.height, ?_, ?_⟩
  · rw [renamed, List.mem_map]
    rintro ⟨n, hn, empty⟩
    split at empty
    · next own => exact named (own ▸ hn) empty
    · exact h.named (empty ▸ hn)
  · rw [renamed]
    refine List.Nodup.map_on (fun a ha b hb he => ?_) h.distinct
    by_cases own : a = id <;> by_cases own' : b = id
    · rw [own, own']
    · rw [if_pos own, if_neg own'] at he
      exact absurd he.symm (free b hb own')
    · rw [if_neg own, if_pos own'] at he
      exact absurd he (free a ha own)
    · rwa [if_neg own, if_neg own'] at he

/-- **An edit that keeps names apart keeps a scene valid.** -/
theorem Valid.edit {s t : Scene} {edit : Edit} (h : s.Valid) (keeps : edit.KeepsNames s)
    (applied : edit.apply s = .accepted t) : t.Valid := by
  cases edit with
  | add element =>
    obtain rfl : s.add element = t := accepted.inj applied
    exact h.add keeps.1 keeps.2
  | remove id =>
    obtain rfl : s.remove id = t := accepted.inj applied
    exact h.remove id
  | update id updates =>
    have canvas : t.canvas = s.canvas := by
      obtain ⟨elements, rfl, _⟩ := rebuild_eq_accepted.mp applied
      rfl
    rcases renamed_cases updates id with same | given
    · refine h.rename canvas (names_rebuild applied) ?_ ?_ <;> rw [same]
      · exact fun hm empty => h.named (empty ▸ hm)
      · exact fun _ _ other => other
    · obtain ⟨named, free⟩ := keeps _ given
      exact h.rename canvas (names_rebuild applied) (fun _ => named) (List.forall_mem_map.mpr free)

theorem read_canvas {width height : Json} {w h : Double}
    (hw : Codec.number.read width = .accepted w) (hh : Codec.number.read height = .accepted h) :
    Canvas.record.read [("width", width), ("height", height)] = .accepted ⟨w, h⟩ :=
  read_seq.mpr ⟨_, h, read_map.mpr ⟨w, under_eq_accepted.mpr hw, rfl⟩,
    under_eq_accepted.mpr hh, rfl⟩

theorem read_sizes {width height : Json} {w h : Double} {wide high : Int}
    (hw : Codec.number.read width = .accepted w) (hh : Codec.number.read height = .accepted h) :
    Canvas.record.read [("width", if width.isNull then .int wide else width),
      ("height", if height.isNull then .int high else height)] = .accepted ⟨w, h⟩ := by
  have given : ∀ {j x}, Codec.number.read j = .accepted x → j.isNull = false := by
    intro j x hj
    cases j with
    | null => cases hj
    | _ => rfl
  rw [given hw, given hh]
  exact read_canvas hw hh

/-- **A history that begins with a new canvas has valid scenes, as long as no edit gives an element
a name that is empty or that another one has.** -/
theorem edits_keep_valid {settings : Settings} {width height : Json} {w h : Double}
    (hw : Codec.number.read width = .accepted w) (hh : Codec.number.read height = .accepted h)
    (positive : w.isPositive = true ∧ h.isPositive = true) :
    Scene.create settings width height = .accepted { canvas := ⟨w, h⟩ } ∧
      ∀ scene, ReflTransGen (Edited Edit.KeepsNames) { canvas := ⟨w, h⟩ } scene →
        scene.problems = [] ∧ scene.checked = .ok scene := by
  refine ⟨map_eq_accepted.mpr ⟨⟨w, h⟩, read_sizes hw hh, rfl⟩, fun scene run => ?_⟩
  have valid : scene.Valid := by
    refine run_invariant (fun s t edit hs keeps applied => hs.edit keeps applied) ?_ run
    exact ⟨Double.not_isNonpositive positive.1, Double.not_isNonpositive positive.2,
      List.not_mem_nil, List.nodup_nil⟩
  have problems := problems_eq_nil.mpr valid
  exact ⟨problems, by rw [checked, problems]; rfl⟩

/-- An element is added as `a` and renamed to `b`, so that another one may be added as `a`. -/
theorem renaming_run (canvas : Canvas) (size : FiniteDouble) :
    ReflTransGen (Edited Edit.KeepsNames) { canvas }
      { canvas, elements := [dot size "b", dot size "a"] } := by
  have added : Edited Edit.KeepsNames { canvas } { canvas, elements := [dot size "a"] } :=
    ⟨.add (dot size "a"), ⟨by simp [dot], List.forall_mem_nil _⟩, rfl⟩
  have renamed : Edited Edit.KeepsNames { canvas, elements := [dot size "a"] }
      { canvas, elements := [dot size "b"] } := by
    refine ⟨.update "a" { id := some (.str "b") }, fun name h => ?_, ?_⟩
    · obtain rfl : .unicode "b" = name := by simpa using h
      simp [dot]
    · rw [Edit.apply, rebuild, changeElements, dot, if_pos rfl]
      rfl
  have again : Edited Edit.KeepsNames { canvas, elements := [dot size "b"] }
      { canvas, elements := [dot size "b", dot size "a"] } :=
    ⟨.add (dot size "a"), by simp [Edit.KeepsNames, dot], rfl⟩
  exact ((ReflTransGen.single added).tail renamed).tail again

theorem edits_keep_valid_renaming :
    ∃ start scene, Scene.create {} (.num 800) (.num 600) = .accepted start ∧
    ReflTransGen (Edited Edit.KeepsNames) start scene ∧
    scene.names = ["b", "a"] ∧ scene.checked = .ok scene := by
  have number {x : Double} (finite : x.isFinite = true) :
      Codec.number.read (.num x) = .accepted x :=
    readNumber_of_isFinite finite
  have sizes : (800 : Double).isPositive = true ∧ (600 : Double).isPositive = true := by
    decide +kernel
  obtain ⟨created, valid⟩ := @edits_keep_valid {} _ _ _ _ (number (x := 800) (by decide +kernel))
    (number (x := 600) (by decide +kernel)) sizes
  have run := renaming_run ⟨800, 600⟩ ⟨false, 0, by decide⟩
  exact ⟨_, _, created, run, rfl, (valid _ run).2⟩

end Scene

end SceneSketch
