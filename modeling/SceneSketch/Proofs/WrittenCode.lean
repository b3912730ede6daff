import SceneSketch.Command.Run
import SceneSketch.Proofs.Acceptance
import SceneSketch.Proofs.Gate

/-!
# Code in a file

The code of a scene is written with a line break behind it. It has no carriage return, so it is read
as it was written (`Scene.textOfBytes?_line`), and the line that the break opens is empty, so the
checks have nothing to say about it (`Scene.verdict_line`).
-/

namespace SceneSketch

/-! ## Text that is read -/

theorem lineFeeds_eq_self {cs : List Char} (h : '\r' ∉ cs) : lineFeeds cs = cs := by
  induction cs using lineFeeds.induct with
  | case1 => rfl
  | case2 rest ih => simp at h
  | case3 rest _ ih => simp at h
  | case4 c rest _ other ih =>
    rw [lineFeeds, ih fun hr => h (List.mem_cons_of_mem c hr)]
    · assumption
    · assumption

theorem fromUTF8?_toUTF8 (s : String) : String.fromUTF8? s.toUTF8 = some s :=
  dif_pos s.isValidUTF8

theorem textOfBytes?_toUTF8 {s : String} (h : '\r' ∉ s.toList) :
    textOfBytes? s.toUTF8 = some s := by
  rw [textOfBytes?, fromUTF8?_toUTF8, Option.map_some, lineFeeds_eq_self h, String.ofList_toList]

/-! ## Text that is printed -/

theorem dropSequences_eq_self {cs : List Char} (h : '\x1b' ∉ cs) : dropSequences cs = cs := by
  induction cs with
  | nil => rw [dropSequences]
  | cons c cs ih =>
    have begins : c ≠ '\x1b' := fun e => h (by simp [e])
    have plain : afterSequence? (c :: cs) = none := by
      unfold afterSequence?
      split
      · next he => exact absurd (List.cons.inj he).1 begins
      · rfl
    rw [dropSequences]
    split
    · next he => cases he.symm.trans plain
    · rw [ih fun hc => h (List.mem_cons_of_mem c hc)]

theorem outLine_eq {s : String} (h : '\x1b' ∉ s.toList) : outLine s = s ++ "\n" := by
  rw [outLine, dropSequences_eq_self (by simpa [line] using h), line, String.ofList_toList]

/-! ## Carriage returns -/

theorem Expression.not_return {cs : List Char} (h : Expression cs) : '\r' ∉ cs := by
  induction h with
  | empty => exact List.not_mem_nil
  | word w hw =>
    have words : ∀ w ∈ vocabulary, '\r' ∉ w.toList := by decide +kernel
    exact words w hw
  | number hn => exact fun hr => absurd (hn _ hr) (by decide)
  | literal content => exact fun hr => absurd (mem_literalChars _ hr) (by decide)
  | join d hd _ _ iha ihb =>
    have mark : '\r' ≠ d := by
      rintro rfl
      exact absurd hd (by decide)
    simpa [mark] using ⟨iha, ihb⟩
  | group _ _ _ iha ihb ihc => simpa using ⟨iha, ihb, ihc⟩

theorem Line.not_return (line : Line) : '\r' ∉ line.text.toList := by
  rw [toList_text]
  cases line with
  | blank => simp [content]
  | remark r => simpa [content] using r.expression.not_return
  | code s => simpa [content] using s.derived.not_return

namespace Scene

theorem not_return (scene : Scene) : '\r' ∉ scene.code.toList := by
  have lines : ∀ l ∈ textLines scene.code, '\r' ∉ l.toList :=
    (forall_textLines_code (by decide +kernel) scene).mpr fun line _ => line.not_return
  rw [toList_eq_intercalate, ← List.count_eq_zero, count_intercalate (by decide)]
  refine List.sum_eq_zero fun n hn => ?_
  simp only [List.map_map, List.mem_map, Function.comp_apply] at hn
  obtain ⟨l, hl, rfl⟩ := hn
  exact List.count_eq_zero.mpr (lines l hl)

theorem textOfBytes?_line (scene : Scene) :
    textOfBytes? (line scene.code).toUTF8 = some (line scene.code) :=
  textOfBytes?_toUTF8 (by simpa [line] using scene.not_return)

end Scene

/-! ## The line break at the end -/

theorem textLines_line (text : String) : textLines (line text) = textLines text ++ [""] := by
  simp [textLines, line, List.splitOn_append_cons_self]

theorem infix_line (text : String) : text.toList <:+: (line text).toList := by
  rw [line, String.toList_append]
  exact (List.prefix_append _ _).isInfix

theorem FollowsTemplate.part {strict : Bool} {code text : String} (h : FollowsTemplate strict code)
    (part : code.toList <:+: text.toList) (global : ¬ instanceCall.toList <:+: text.toList) :
    FollowsTemplate strict text where
  setup := h.setup.trans part
  draw := h.draw.trans part
  setupMarked := h.setupMarked.imp (·.trans part) (·.trans part)
  drawMarked := h.drawMarked.imp (·.trans part) (·.trans part)
  global := global
  opensSetup hs := (h.opensSetup hs).imp fun _ ⟨hm, fits⟩ => ⟨hm.trans part, fits⟩
  opensDraw hs := (h.opensDraw hs).imp fun _ ⟨hm, fits⟩ => ⟨hm.trans part, fits⟩

/-- **The checks accept the code of a scene with a line break behind it, strict or not.** -/
theorem Scene.verdict_line (scene : Scene) (strict : Bool) :
    Verdict.ofCode strict (line scene.code) = ⟨[], [], []⟩ := by
  have inert : ∀ l ∈ textLines (line scene.code), Inert l.toList := by
    rw [textLines_line]
    refine List.forall_mem_append.mpr ⟨fun _ => inert_of_mem_textLines, ?_⟩
    exact List.forall_mem_singleton.mpr Line.blank.inert
  have global : ¬ instanceCall.toList <:+: (line scene.code).toList := by
    have absent : containsWord instanceCall (line scene.code) = false :=
      containsWord_of_inert inert (w := "p5".toList) (by simp)
        ⟨"new ".toList, ['('], by simp [instanceCall]⟩
    rw [← containsWord_iff, absent]
    exact Bool.false_ne_true
  have follows := (templateFaults_eq_nil.mp (scene.templateFaults_code strict)).part
    (infix_line scene.code) global
  rw [Verdict.ofCode, templateFaults_eq_nil.mpr follows, hazards_of_inert inert,
    warnings_eq_nil inert (scene.opening_part.trans (infix_line scene.code))]

end SceneSketch
