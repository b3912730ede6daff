import SceneSketch.Color
import SceneSketch.Proofs.FaithfulText

/-!
# Argument lists

A color is written as the list of its channels. No number text has a comma, so the list is read by
cutting it at the commas and reading each part as a number; the kind of the color says which channel
each part is, and a part behind them is the alpha (`Color.code_decodes`). The sign of zero is all
that is lost.
-/

namespace SceneSketch

/-! ## Texts cut at commas -/

/-- The parts of a text between the commas that a blank follows. -/
def cutAtCommas : List Char → List (List Char)
  | [] => [[]]
  | ',' :: ' ' :: cs => [] :: cutAtCommas cs
  | c :: cs => (cutAtCommas cs).modifyHead (c :: ·)

def commaParts (text : String) : List String :=
  (cutAtCommas text.toList).map String.ofList

theorem cutAtCommas_cons {c : Char} (h : c ≠ ',') (cs : List Char) :
    cutAtCommas (c :: cs) = (cutAtCommas cs).modifyHead (c :: ·) := by
  rw [cutAtCommas]
  exact fun _ e _ => h e

theorem cutAtCommas_whole {part : List Char} (h : ',' ∉ part) : cutAtCommas part = [part] := by
  induction part with
  | nil => rfl
  | cons c part ih =>
    obtain ⟨hc, hpart⟩ := not_or.mp (mt List.mem_cons.mpr h)
    rw [cutAtCommas_cons (Ne.symm hc), ih hpart]
    rfl

theorem cutAtCommas_append {part : List Char} (h : ',' ∉ part) (rest : List Char) :
    cutAtCommas (part ++ ',' :: ' ' :: rest) = part :: cutAtCommas rest := by
  induction part with
  | nil => rfl
  | cons c part ih =>
    obtain ⟨hc, hpart⟩ := not_or.mp (mt List.mem_cons.mpr h)
    rw [List.cons_append, cutAtCommas_cons (Ne.symm hc), ih hpart]
    rfl

/-- **Parts without a comma are found again in their list.** -/
theorem commaParts_intercalate :
    ∀ {parts : List String}, parts ≠ [] → (∀ part ∈ parts, ',' ∉ part.toList) →
    commaParts (String.intercalate ", " parts) = parts
  | [], h, _ => absurd rfl h
  | [part], _, h => by
    rw [String.intercalate_singleton, commaParts,
      cutAtCommas_whole (h part (List.mem_singleton_self part))]
    simp
  | part :: next :: parts, _, h => by
    obtain ⟨here, behind⟩ := List.forall_mem_cons.mp h
    have ih := commaParts_intercalate (List.cons_ne_nil next parts) behind
    have letters : (String.intercalate ", " (part :: next :: parts)).toList =
        part.toList ++ ',' :: ' ' :: (String.intercalate ", " (next :: parts)).toList := by
      rw [String.intercalate_cons_cons]
      simp
    rw [commaParts] at ih
    rw [commaParts, letters, cutAtCommas_append here, List.map_cons, ih, String.ofList_toList]

/-! ## Numbers -/

namespace Double

def unsignedZero : Double → Double
  | finite x => finite x.unsignedZero
  | x => x

theorem numberOfText?_codeText (x : Double) :
    Codec.numberOfText? x.codeText = some x.unsignedZero := by
  cases x with
  | nan => decide
  | infinite negative => cases negative <;> decide
  | finite x => exact x.numberOfText?_codeText

theorem codeText_unsignedZero (x : Double) : x.unsignedZero.codeText = x.codeText := by
  cases x with
  | nan => rfl
  | infinite negative => rfl
  | finite x =>
    exact FiniteDouble.codeText_inj.mpr (FiniteDouble.value_inj.mpr x.units_unsignedZero)

theorem comma_not_mem_codeText (x : Double) : ',' ∉ x.codeText.toList :=
  fun h => absurd (x.numeral_codeText _ h) (by decide)

end Double

/-! ## Colors -/

inductive ColorKind
  | rgb
  | hsb
  | gray
deriving DecidableEq

namespace ColorKind

def size : ColorKind → Nat
  | rgb => 3
  | hsb => 3
  | gray => 1

/-- The color with these channels, an alpha behind them if there is one more. -/
def color? : ColorKind → List Double → Option Color
  | rgb, red :: green :: blue :: alpha => (alphaOf? alpha).map fun a => .rgb ⟨red, green, blue, a⟩
  | hsb, hue :: saturation :: brightness :: alpha =>
    (alphaOf? alpha).map fun a => .hsb ⟨hue, saturation, brightness, a⟩
  | gray, level :: alpha => (alphaOf? alpha).map fun a => .gray ⟨level, a⟩
  | _, _ => none
where
  alphaOf? : List Double → Option (Option Double)
    | [] => some none
    | [a] => some (some a)
    | _ => none

/-- The color that an argument list gives, each part read as a number. -/
def decode? (kind : ColorKind) (code : String) : Option Color :=
  ((commaParts code).mapM Codec.numberOfText?).bind kind.color?

end ColorKind

namespace Color

def kind : Color → ColorKind
  | rgb _ => .rgb
  | hsb _ => .hsb
  | gray _ => .gray

def unsignedZero : Color → Color
  | rgb c =>
    .rgb ⟨c.red.unsignedZero, c.green.unsignedZero, c.blue.unsignedZero,
      c.alpha.map Double.unsignedZero⟩
  | hsb c =>
    .hsb ⟨c.hue.unsignedZero, c.saturation.unsignedZero, c.brightness.unsignedZero,
      c.alpha.map Double.unsignedZero⟩
  | gray c => .gray ⟨c.level.unsignedZero, c.alpha.map Double.unsignedZero⟩

section
variable (color : Color)

theorem channels_unsignedZero :
    color.unsignedZero.channels = color.channels.map Double.unsignedZero := by
  rcases color with ⟨r, g, b, a⟩ | ⟨h, s, b, a⟩ | ⟨v, a⟩ <;> cases a <;> rfl

theorem color?_channels : color.kind.color? color.channels = some color := by
  rcases color with ⟨r, g, b, a⟩ | ⟨h, s, b, a⟩ | ⟨v, a⟩ <;> cases a <;> rfl

theorem kind_unsignedZero : color.unsignedZero.kind = color.kind := by
  cases color <;> rfl

theorem getElem?_channels_size : color.channels[color.kind.size]? = color.alpha := by
  rcases color with ⟨r, g, b, a⟩ | ⟨h, s, b, a⟩ | ⟨v, a⟩ <;> cases a <;> rfl

theorem commaParts_code : commaParts color.code = color.channels.map Double.codeText := by
  apply commaParts_intercalate
  · cases color <;> simp [channels]
  · exact List.forall_mem_map.mpr fun x _ => x.comma_not_mem_codeText

theorem code_unsignedZero : color.unsignedZero.code = color.code := by
  have texts : (Double.codeText ∘ Double.unsignedZero) = Double.codeText :=
    funext Double.codeText_unsignedZero
  rw [code, code, channels_unsignedZero, List.map_map, texts]

theorem decode?_code : color.kind.decode? color.code = some color.unsignedZero := by
  have read : (color.channels.map Double.codeText).mapM Codec.numberOfText? =
      some (color.channels.map Double.unsignedZero) := by
    rw [List.mapM_map]
    simp only [Function.comp_def, Double.numberOfText?_codeText]
    exact List.mapM_pure
  rw [ColorKind.decode?, commaParts_code, read, Option.bind_some, ← channels_unsignedZero,
    ← kind_unsignedZero, color?_channels]

end

/-- **The argument list of a color decodes to its channels.** Its parts are read as the channels in
order, the sign of zero aside, and a part stands at the place of the alpha exactly if there is one,
which it is read as. So the list and the kind give the color back, and colors of one kind have the
same list only if they agree in all channels and in having an alpha. -/
theorem code_decodes (color : Color) :
    (commaParts color.code).map Codec.numberOfText? =
      color.channels.map (fun x => some x.unsignedZero) ∧
      (commaParts color.code)[color.kind.size]?.map Codec.numberOfText? =
        color.alpha.map (fun a => some a.unsignedZero) ∧
      color.kind.decode? color.code = some color.unsignedZero ∧
      ∀ other : Color, other.kind = color.kind →
        (color.code = other.code ↔ color.unsignedZero = other.unsignedZero) := by
  refine ⟨?_, ?_, color.decode?_code, fun other same => ⟨fun h => ?_, fun h => ?_⟩⟩
  · rw [commaParts_code, List.map_map]
    exact List.map_congr_left fun x _ => x.numberOfText?_codeText
  · rw [commaParts_code, List.getElem?_map, getElem?_channels_size, Option.map_map]
    exact Option.map_congr fun a _ => a.numberOfText?_codeText
  · have decoded := color.decode?_code
    rw [h, ← same, other.decode?_code, Option.some_inj] at decoded
    exact decoded.symm
  · rw [← color.code_unsignedZero, h, other.code_unsignedZero]

/-- Zero as the level and as the alpha is written the same with either sign, and not like zero
without alpha. -/
theorem code_decodes_transparent :
    let zero (negative : Bool) : Double := .finite ⟨negative, 0, by decide⟩
    let clear (negative : Bool) : Color := .gray ⟨zero negative, some (zero negative)⟩
    (clear true).code = (clear false).code ∧
    (clear true).code ≠ code (.gray ⟨zero false, none⟩) := by
  intro zero clear
  constructor
  · exact ((code_decodes (clear true)).2.2.2 (clear false) rfl).mpr rfl
  · exact fun h => nomatch ((code_decodes (clear true)).2.2.2 (.gray ⟨zero false, none⟩) rfl).mp h

end Color

end SceneSketch
