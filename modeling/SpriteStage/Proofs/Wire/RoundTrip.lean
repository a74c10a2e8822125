/-
The wire format, written and read.

Whatever is written for a call, a reply, an event, settings or a script is read back as what it was
written for. Colors are the one thing that may be written in two ways, so texts are taken with the
numeral of each color chosen freely: the own numeral of the color gives the text that is written,
one of its spellings (`Argb.Spelling`) is read as the same, and a numeral that stands for no color
makes the whole text unreadable.
-/
import SpriteStage.Proofs.Wire.Records
import SpriteStage.Script

set_option autoImplicit false

namespace SpriteStage

/-! ## Colors -/

namespace Argb

/-- The numeral that is written for a color. -/
def numeral (c : Argb) : Numeral := .ofInt c.word.toNat

/-- The numerals that a color may be written with: its word and, where that needs all 32 bits, the
negative number with the same bits. -/
def Spelling (c : Argb) (n : Numeral) : Prop :=
  n = c.numeral ∨ 0x80000000 ≤ c.word.toNat ∧ n = .ofInt (c.word.toNat - 0x100000000)

/-- Numerals that write no integer in the range of colors. -/
def Foreign (n : Numeral) : Prop := ∀ i, n.integer? = some i → i < -0x80000000 ∨ 0xffffffff < i

theorem Spelling.own (c : Argb) : c.Spelling c.numeral := .inl rfl

theorem ofSigned_ofInt_sub (c : Argb) : ofSigned (Int32.ofInt (c.word.toNat - 0x100000000)) = c := by
  obtain ⟨w⟩ := c
  refine congrArg mk (UInt32.toBitVec_inj.1 (BitVec.eq_of_toInt_eq ?_))
  simp

theorem ofJson?_of_spelling {c : Argb} {n : Numeral} (h : c.Spelling n) :
    ofJson? (.number n) = some c := by
  have hlt := c.word.toNat_lt
  rcases h with rfl | ⟨hlarge, rfl⟩
  · have hword : (Json.number c.numeral).word32? = some c.word := Json.word32?_ofInt c.word
    rw [ofJson?, hword]
  · have hword : (Json.ofInt (c.word.toNat - 0x100000000)).word32? = none := by
      rw [Json.word32?, Json.ofInt, Json.integerIn?_eq_none, Option.map_none]
      intro i hi
      cases Numeral.integer?_ofInt _ ▸ hi
      omega
    have hsigned : (Json.ofInt (c.word.toNat - 0x100000000)).integerIn? (-0x80000000) (-1) =
        some (c.word.toNat - 0x100000000 : Int) :=
      Json.integerIn?_ofInt (by omega) (by omega)
    rw [Json.ofInt] at hword hsigned
    rw [ofJson?, hword, hsigned]
    exact congrArg some c.ofSigned_ofInt_sub

theorem ofJson?_of_foreign {n : Numeral} (h : Foreign n) : ofJson? (.number n) = none := by
  have hword : (Json.number n).word32? = none := by
    rw [Json.word32?, Json.integerIn?_eq_none, Option.map_none]
    intro i hi
    have := h i hi
    omega
  rw [ofJson?, hword, Json.integerIn?_eq_none, Option.map_none]
  intro i hi
  have := h i hi
  omega

/-- A spelling of a color is a value that a field may be written as. -/
theorem Spelling.fieldValue {c : Argb} {n : Numeral} (h : c.Spelling n) :
    Wire.FieldValue (.number n) := by
  have hlt := c.word.toNat_lt
  rcases h with rfl | ⟨-, rfl⟩
  · exact .word32 c.word
  · exact .int (by omega)

end Argb

/-! ## Calls -/

namespace Call

/-- The color of a call, if it has one. -/
def color? : Call → Option Argb
  | createText _ color _ => some color
  | modifyBitmap _ _ _ color => some color
  | _ => none

/-- The fields of a call with its color, if it has one, written as `n`. -/
def fieldsWith (n : Numeral) (c : Call) : List (String × Json) :=
  c.fields.map fun (key, value) => (key, if key = "color" then .number n else value)

/-- The record of a call with its color, if it has one, written as `n`. -/
def toJsonWith (n : Numeral) (c : Call) : Json := Wire.tagged tagKey c.tag (c.fieldsWith n)

/-- The numeral that is written for the color of a call. -/
def colorNumeral (c : Call) : Numeral := (c.color?.getD .black).numeral

/-- The call that a text denotes. -/
def read? (text : String) : Option Call := (Json.parse? text).bind (ofJson? Wire.depth)

/-- The tag that is made from the identifier is the name in the table. -/
theorem tag_eq_name (c : Call) : c.tag = c.name := by
  cases c <;> simp [tag, identifier, name, Wire.camelCase]

theorem fieldsWith_colorNumeral (c : Call) : c.fieldsWith c.colorNumeral = c.fields := by
  cases c <;> simp [fieldsWith, fields, colorNumeral, color?, Argb.numeral, Argb.toJson, Json.ofInt]

variable {n : Numeral}

theorem map_fst_fieldsWith (c : Call) : (c.fieldsWith n).map (·.1) = c.fields.map (·.1) := by
  simp [fieldsWith, Function.comp_def]

theorem fieldNames?_tag (c : Call) : fieldNames? c.tag = some ((c.fieldsWith n).map (·.1)) := by
  rw [tag_eq_name, map_fst_fieldsWith]
  cases c <;> rfl

theorem nodup_keys (c : Call) : (tagKey :: (c.fieldsWith n).map (·.1)).Nodup := by
  rw [map_fst_fieldsWith]
  cases c <;> simp [tagKey, fields]

/-- What holds of field values, and of the numeral of the color, holds of all fields. -/
theorem forall_fieldsWith {P : Json → Prop} (c : Call) (hvalue : ∀ j, Wire.FieldValue j → P j)
    (hcolor : c.color?.isSome → P (.number n)) : ∀ f ∈ c.fieldsWith n, P f.2 := by
  cases c with
  | createText => simp [fieldsWith, fields, hvalue, hcolor rfl]
  | modifyBitmap => simp [fieldsWith, fields, hvalue, hcolor rfl]
  | _ => simp [fieldsWith, fields, hvalue]

theorem fieldValue_fieldsWith (c : Call)
    (h : ∀ color, c.color? = some color → color.Spelling n) :
    ∀ f ∈ c.fieldsWith n, Wire.FieldValue f.2 :=
  c.forall_fieldsWith (fun _ hj => hj) fun hcolor =>
    (h _ (Option.some_get hcolor).symm).fieldValue

theorem wellFormed_toJsonWith (c : Call) (h : c.color?.isSome → n.WellFormed) :
    (c.toJsonWith n).WellFormed :=
  Wire.wellFormed_tagged (c.forall_fieldsWith (fun _ hj => hj.wellFormed) h)

@[simp] theorem words?_map (ws : List UInt32) :
    words? (.array (ws.map fun w => .ofInt w.toNat)) = some ws := by
  have hread : (ws.map fun w => Json.ofInt w.toNat).mapM Json.word32? = some (ws.map id) :=
    mapM_map_eq_some fun w _ => Json.word32?_ofInt w
  rwa [List.map_id] at hread

theorem ofFields?_fieldsWith (c : Call) (h : ∀ color, c.color? = some color → color.Spelling n) :
    ofFields? c.tag ((c.fieldsWith n).map (·.2)) = some c := by
  have hread : ∀ color, c.color? = some color → Argb.ofJson? (.number n) = some color :=
    fun color hcolor => Argb.ofJson?_of_spelling (h color hcolor)
  rw [tag_eq_name]
  cases c with
  | createText _ color _ => simp [fieldsWith, fields, ofFields?, name, hread color rfl]
  | modifyBitmap _ _ _ color => simp [fieldsWith, fields, ofFields?, name, hread color rfl]
  | _ => simp [fieldsWith, fields, ofFields?, name]

theorem ofFields?_of_foreign (c : Call) (hcolor : c.color?.isSome) (hn : Argb.Foreign n) :
    ofFields? c.tag ((c.fieldsWith n).map (·.2)) = none := by
  have hread := Argb.ofJson?_of_foreign hn
  rw [tag_eq_name]
  cases c with
  | createText => simp [fieldsWith, fields, ofFields?, name, hread]
  | modifyBitmap => simp [fieldsWith, fields, ofFields?, name, hread]
  | _ => cases hcolor

variable {room : Nat}

theorem ofJson?_toJsonWith (c : Call) (h : ∀ color, c.color? = some color → color.Spelling n)
    (hroom : 2 ≤ room) : ofJson? room (c.toJsonWith n) = some c :=
  Wire.read_tagged c.fieldNames?_tag c.nodup_keys (c.fieldValue_fieldsWith h) hroom
    (c.ofFields?_fieldsWith h)

theorem ofJson?_of_foreign (c : Call) (hcolor : c.color?.isSome) (hn : Argb.Foreign n) :
    ofJson? room (c.toJsonWith n) = none := by
  rw [ofJson?, toJsonWith, Wire.tagged?_tagged c.fieldNames?_tag c.nodup_keys]
  split
  · exact c.ofFields?_of_foreign hcolor hn
  · rfl

/-- **A text of a call whose color is spelled in either way is read as the call.** -/
theorem read?_toJsonWith (c : Call) (h : ∀ color, c.color? = some color → color.Spelling n) :
    read? (c.toJsonWith n).toText = some c :=
  Wire.read_text c.fieldNames?_tag c.nodup_keys (c.fieldValue_fieldsWith h)
    (c.ofFields?_fieldsWith h)

/-- The text of a call whose color is out of range is not read. -/
theorem read?_of_foreign (c : Call) (hcolor : c.color?.isSome) (hn : n.WellFormed)
    (hforeign : Argb.Foreign n) : read? (c.toJsonWith n).toText = none := by
  rw [read?, Json.parse?_toText (c.wellFormed_toJsonWith fun _ => hn), Option.bind_some]
  exact c.ofJson?_of_foreign hcolor hforeign

theorem toJsonWith_colorNumeral (c : Call) : c.toJsonWith c.colorNumeral = c.toJson := by
  rw [toJsonWith, fieldsWith_colorNumeral, toJson]

theorem spelling_colorNumeral (c : Call) :
    ∀ color, c.color? = some color → color.Spelling c.colorNumeral := by
  intro color hcolor
  rw [colorNumeral, hcolor]
  exact .own color

/-- **The text of a call is read as the call.** -/
theorem read?_toText (c : Call) : read? c.toJson.toText = some c := by
  rw [← toJsonWith_colorNumeral]
  exact c.read?_toJsonWith c.spelling_colorNumeral

/-- **The text of a call is an object with one tag, the name of the call.** -/
theorem exists_tag (c : Call) : ∃ members, Json.parse? c.toJson.toText = some (.object members) ∧
    Wire.valuesOf tagKey members = [.ofText c.name] := by
  have hn : c.color?.isSome → c.colorNumeral.WellFormed := fun hcolor =>
    (c.spelling_colorNumeral _ (Option.some_get hcolor).symm).fieldValue.wellFormed
  have hparse := Json.parse?_toText (c.wellFormed_toJsonWith hn)
  rw [toJsonWith_colorNumeral] at hparse
  refine ⟨_, hparse, ?_⟩
  rw [← tag_eq_name]
  exact Wire.valuesOf_tagged (fieldsWith_colorNumeral c ▸ c.nodup_keys)

end Call

/-! ## Replies and events -/

namespace Reply

/-- The reply that a text denotes. -/
def read? (text : String) : Option Reply := (Json.parse? text).bind (ofJson? Wire.depth)

theorem ofFields?_fields (r : Reply) : ofFields? r.tag (r.fields.map (·.2)) = some r := by
  cases r <;> simp [fields, ofFields?, tag]

/-- **The text of a reply is read as the reply.** -/
theorem read?_toText (r : Reply) : read? r.toJson.toText = some r := by
  have hvalues : ∀ f ∈ r.fields, Wire.FieldValue f.2 := by
    cases r <;> simp [fields]
  have hnames : fieldNames? r.tag = some (r.fields.map (·.1)) := by
    cases r <;> rfl
  have hkeys : (tagKey :: r.fields.map (·.1)).Nodup := by
    cases r <;> simp [tagKey, fields]
  exact Wire.read_text hnames hkeys hvalues r.ofFields?_fields

end Reply

namespace Event

/-- The event that a text denotes. -/
def read? (text : String) : Option Event := (Json.parse? text).bind (ofJson? Wire.depth)

theorem ofFields?_fields (e : Event) : ofFields? e.tag (e.fields.map (·.2)) = some e := by
  cases e
  simp [fields, ofFields?, tag]

/-- **The text of an event is read as the event.** -/
theorem read?_toText (e : Event) : read? e.toJson.toText = some e := by
  have hvalues : ∀ f ∈ e.fields, Wire.FieldValue f.2 := by
    cases e
    simp [fields]
  have hnames : fieldNames? e.tag = some (e.fields.map (·.1)) := by
    cases e
    rfl
  have hkeys : (tagKey :: e.fields.map (·.1)).Nodup := by
    cases e
    simp [tagKey, fields]
  exact Wire.read_text hnames hkeys hvalues e.ofFields?_fields

end Event

/-! ## Settings -/

namespace Settings

/-- The record of settings with the background written as `n`. -/
def toJsonWith (n : Numeral) (s : Settings) : Json :=
  .ofMembers [("clear_argb", .number n), ("min_tick_ms", .ofInt s.minTickMillis.toNat),
    ("max_surface_dim", .ofInt s.limit.toNat)]

theorem toJsonWith_numeral (s : Settings) : s.toJsonWith s.clear.numeral = s.toJson := rfl

variable {n : Numeral}

theorem wellFormed_toJsonWith (s : Settings) (hn : n.WellFormed) :
    (s.toJsonWith n).WellFormed := by
  have hnumber : (Json.number n).WellFormed := hn
  rw [toJsonWith, Json.wellFormed_ofMembers_iff]
  simp [hnumber, Json.wellFormed_ofInt]

theorem fields?_toJsonWith (s : Settings) : Wire.fields? fieldNames (s.toJsonWith n) =
    some [some (.number n), some (.ofInt s.minTickMillis.toNat), some (.ofInt s.limit.toNat)] :=
  Wire.fields?_ofMembers (by simp) (List.Subset.refl _)

theorem ofJson?_toJsonWith (s : Settings) (h : s.clear.Spelling n) :
    ofJson? (s.toJsonWith n) = some s := by
  simp [ofJson?, fields?_toJsonWith, Wire.orElse?, Argb.ofJson?_of_spelling h]

theorem ofJson?_of_foreign (s : Settings) (hn : Argb.Foreign n) :
    ofJson? (s.toJsonWith n) = none := by
  simp [ofJson?, fields?_toJsonWith, Wire.orElse?, Argb.ofJson?_of_foreign hn]

/-- **A text of settings whose background is spelled in either way is read as the settings.** -/
theorem parse_toJsonWith (s : Settings) (h : s.clear.Spelling n) :
    parse (s.toJsonWith n).toText = .ok s := by
  have hparse := Json.parse?_toText (s.wellFormed_toJsonWith h.fieldValue.wellFormed)
  rw [parse, hparse, Option.bind_some, s.ofJson?_toJsonWith h]

/-- The text of settings whose background is out of range is not read. -/
theorem parse_of_foreign (s : Settings) (hn : n.WellFormed) (hforeign : Argb.Foreign n) :
    parse (s.toJsonWith n).toText = .error (.malformed "not settings") := by
  have hparse := Json.parse?_toText (s.wellFormed_toJsonWith hn)
  rw [parse, hparse, Option.bind_some, s.ofJson?_of_foreign hforeign]

end Settings

/-! ## Scripts -/

namespace Script

/-- The record of a script with its colors written as other numerals: the background of the settings
as `clear`, and the color of the call at place `i` as `colors i`. -/
def toJsonWith (clear : Numeral) (colors : Nat → Numeral) (s : Script) : Json :=
  .ofMembers [("settings", (s.settings.map (Settings.toJsonWith clear)).getD .null),
    ("calls", .array (s.calls.mapIdx fun i c => c.toJsonWith (colors i)))]

/-- Numerals for the colors of a script that spell them. -/
structure Spelling (s : Script) (clear : Numeral) (colors : Nat → Numeral) : Prop where
  /-- The background of the settings, if there are any. -/
  settings : ∀ settings, s.settings = some settings → settings.clear.Spelling clear
  /-- The colors of the calls that have one. -/
  calls : ∀ (i : Nat) (c : Call), s.calls[i]? = some c →
    ∀ color, c.color? = some color → color.Spelling (colors i)

/-- Numerals for the colors of a script one of which is out of range. -/
def SomeForeign (s : Script) (clear : Numeral) (colors : Nat → Numeral) : Prop :=
  s.settings.isSome ∧ Argb.Foreign clear ∨
    ∃ i c, s.calls[i]? = some c ∧ c.color?.isSome ∧ Argb.Foreign (colors i)

/-- The numeral that is written for the background of the settings. -/
def clearNumeral (s : Script) : Numeral := (s.settings.getD {}).clear.numeral

/-- The numeral that is written for the color of the call at a place. -/
def colorNumeral (s : Script) (i : Nat) : Numeral :=
  ((s.calls[i]?.bind Call.color?).getD .black).numeral

variable {clear : Numeral} {colors : Nat → Numeral}

theorem spelling_numerals (s : Script) : s.Spelling s.clearNumeral s.colorNumeral where
  settings settings h := by
    rw [clearNumeral, h]
    exact .own _
  calls i c hc color hcolor := by
    rw [colorNumeral, hc, Option.bind_some, hcolor]
    exact .own _

theorem toJsonWith_numerals (s : Script) :
    s.toJsonWith s.clearNumeral s.colorNumeral = s.toJson := by
  have hsettings : s.settings.map (Settings.toJsonWith s.clearNumeral) =
      s.settings.map Settings.toJson := by
    cases hs : s.settings with
    | none => rfl
    | some settings =>
      rw [clearNumeral, hs]
      rfl
  have hcalls : (s.calls.mapIdx fun i c => c.toJsonWith (s.colorNumeral i)) =
      s.calls.map Call.toJson := by
    refine List.ext_getElem (by simp) fun i hi _ => ?_
    have hi : i < s.calls.length := by simpa using hi
    have hown : s.colorNumeral i = s.calls[i].colorNumeral := by
      rw [colorNumeral, List.getElem?_eq_getElem hi]
      rfl
    rw [List.getElem_mapIdx, List.getElem_map, hown, Call.toJsonWith_colorNumeral]
  rw [toJsonWith, hsettings, hcalls, toJson]

theorem wellFormed_toJsonWith (s : Script) (hclear : s.settings.isSome → clear.WellFormed)
    (hcolors : ∀ i c, s.calls[i]? = some c → c.color?.isSome → (colors i).WellFormed) :
    (s.toJsonWith clear colors).WellFormed := by
  have hsettings : ((s.settings.map (Settings.toJsonWith clear)).getD .null).WellFormed := by
    cases hs : s.settings with
    | none => trivial
    | some settings => exact settings.wellFormed_toJsonWith (hclear (by rw [hs]; rfl))
  have hcalls : ∀ j ∈ s.calls.mapIdx fun i c => c.toJsonWith (colors i), j.WellFormed := by
    intro j hj
    obtain ⟨i, hi, rfl⟩ := List.mem_mapIdx.1 hj
    exact s.calls[i].wellFormed_toJsonWith (hcolors i _ (List.getElem?_eq_getElem hi))
  have harray := Json.allWellFormed_iff.2 hcalls
  rw [← Json.WellFormed] at harray
  rw [toJsonWith, Json.wellFormed_ofMembers_iff]
  simp [hsettings, harray]

theorem fields?_toJsonWith (s : Script) :
    Wire.fields? ["settings", "calls"] (s.toJsonWith clear colors) =
      some [some ((s.settings.map (Settings.toJsonWith clear)).getD .null),
        some (.array (s.calls.mapIdx fun i c => c.toJsonWith (colors i)))] :=
  Wire.fields?_ofMembers (by simp) (List.Subset.refl _)

theorem ofJson?_toJsonWith (s : Script) (h : s.Spelling clear colors) :
    ofJson? (s.toJsonWith clear colors) = some s := by
  have hcalls : calls? (.array (s.calls.mapIdx fun i c => c.toJsonWith (colors i))) =
      some s.calls :=
    mapM_mapIdx_eq_some fun i c hc => c.ofJson?_toJsonWith (h.calls i c hc) (by decide)
  have hsettings : settings? ((s.settings.map (Settings.toJsonWith clear)).getD .null) =
      some s.settings := by
    cases hs : s.settings with
    | none => rfl
    | some settings => exact congrArg (some <$> ·) (settings.ofJson?_toJsonWith (h.settings _ hs))
  simp [ofJson?, fields?_toJsonWith, Wire.orElse?, hsettings, hcalls]

theorem ofJson?_of_foreign (s : Script) (h : s.SomeForeign clear colors) :
    ofJson? (s.toJsonWith clear colors) = none := by
  rcases h with ⟨hsome, hclear⟩ | ⟨i, c, hc, hcolor, hforeign⟩
  · have hsettings : settings? ((s.settings.map (Settings.toJsonWith clear)).getD .null) =
        none := by
      obtain ⟨settings, hs⟩ := Option.isSome_iff_exists.1 hsome
      rw [hs]
      exact congrArg (some <$> ·) (settings.ofJson?_of_foreign hclear)
    simp [ofJson?, fields?_toJsonWith, Wire.orElse?, hsettings]
  · have hcalls : calls? (.array (s.calls.mapIdx fun i c => c.toJsonWith (colors i))) = none := by
      obtain ⟨hi, rfl⟩ := List.getElem?_eq_some_iff.1 hc
      exact mapM_eq_none (List.mem_mapIdx.2 ⟨i, hi, rfl⟩)
        (s.calls[i].ofJson?_of_foreign hcolor hforeign)
    simp [ofJson?, fields?_toJsonWith, hcalls]

/-- **A text of a script whose colors are spelled in either way is read as the script.** -/
theorem parse_toJsonWith (s : Script) (h : s.Spelling clear colors) :
    parse (s.toJsonWith clear colors).toText = .ok s := by
  have hwf : (s.toJsonWith clear colors).WellFormed := by
    refine s.wellFormed_toJsonWith (fun hsome => ?_) fun i c hc hcolor => ?_
    · exact (h.settings _ (Option.some_get hsome).symm).fieldValue.wellFormed
    · exact (h.calls i c hc _ (Option.some_get hcolor).symm).fieldValue.wellFormed
  rw [parse, Json.parse?_toText hwf, Option.bind_some, s.ofJson?_toJsonWith h]

/-- The text of a script in which some color is out of range is not read. -/
theorem parse_of_foreign (s : Script) (hclear : clear.WellFormed)
    (hcolors : ∀ i, (colors i).WellFormed) (h : s.SomeForeign clear colors) :
    parse (s.toJsonWith clear colors).toText = .error (.malformed "not a script") := by
  have hwf := s.wellFormed_toJsonWith (fun _ => hclear) fun i _ _ _ => hcolors i
  rw [parse, Json.parse?_toText hwf, Option.bind_some, s.ofJson?_of_foreign h]

end Script

/-! ## The whole format -/

namespace Wire

/-- **What is written is read as what it was written for.** Every call, reply and event, all
settings and every script come back from their texts, and the tag of a call is its name. The texts
may spell any of their colors from `0x80000000` on as the negative number with the same bits. With a
color out of range nothing is read. -/
theorem written_is_read :
    (∀ c : Call, Call.read? c.toJson.toText = some c ∧
      ∃ members, Json.parse? c.toJson.toText = some (.object members) ∧
        valuesOf Call.tagKey members = [.ofText c.name]) ∧
    (∀ r : Reply, Reply.read? r.toJson.toText = some r) ∧
    (∀ e : Event, Event.read? e.toJson.toText = some e) ∧
    (∀ s : Settings, Settings.parse s.toJson.toText = .ok s) ∧
    (∀ s : Script, Script.parse s.toJson.toText = .ok s) ∧
    -- any choice of spellings
    (∀ (c : Call) (n : Numeral), (∀ color, c.color? = some color → color.Spelling n) →
      Call.read? (c.toJsonWith n).toText = some c) ∧
    (∀ (s : Settings) (n : Numeral), s.clear.Spelling n →
      Settings.parse (s.toJsonWith n).toText = .ok s) ∧
    (∀ (s : Script) (clear : Numeral) (colors : Nat → Numeral), s.Spelling clear colors →
      Script.parse (s.toJsonWith clear colors).toText = .ok s) ∧
    -- any numeral out of range, whatever the other colors are written as
    (∀ (c : Call) (n : Numeral), c.color?.isSome → n.WellFormed → Argb.Foreign n →
      Call.read? (c.toJsonWith n).toText = none) ∧
    (∀ (s : Settings) (n : Numeral), n.WellFormed → Argb.Foreign n →
      Settings.parse (s.toJsonWith n).toText = .error (.malformed "not settings")) ∧
    ∀ (s : Script) (clear : Numeral) (colors : Nat → Numeral), clear.WellFormed →
      (∀ i, (colors i).WellFormed) → s.SomeForeign clear colors →
      Script.parse (s.toJsonWith clear colors).toText = .error (.malformed "not a script") := by
  refine ⟨fun c => ⟨c.read?_toText, c.exists_tag⟩, Reply.read?_toText, Event.read?_toText,
    fun s => ?_, fun s => ?_, fun c n => c.read?_toJsonWith, fun s n => s.parse_toJsonWith,
    fun s clear colors => s.parse_toJsonWith, fun c n => c.read?_of_foreign,
    fun s n => s.parse_of_foreign, fun s clear colors => s.parse_of_foreign⟩
  · rw [← Settings.toJsonWith_numeral]
    exact s.parse_toJsonWith (.own _)
  · rw [← Script.toJsonWith_numerals]
    exact s.parse_toJsonWith s.spelling_numerals

/-- The string of a text sprite holds a quote and a line feed, and its color is written as a
negative number. One past the last word is refused. -/
theorem signed_color_is_read :
    Argb.black.Spelling (.ofInt (-16777216)) ∧
      Call.read?
        "\x7b\"call\":\"createText\",\"text\":\"\\\"\\n\",\"color\":-16777216,\"fontSize\":12\x7d" =
        some (.createText "\"\n" .black 12) ∧
      Argb.Foreign (.ofInt 4294967296) ∧
      Settings.parse
        "\x7b\"clear_argb\":4294967296,\"min_tick_ms\":500,\"max_surface_dim\":4096\x7d" =
        .error (.malformed "not settings") := by
  obtain ⟨-, -, -, -, -, hcall, -, -, -, hsettings, -⟩ := written_is_read
  have hspelling : Argb.black.Spelling (.ofInt (-16777216)) := .inr ⟨by decide, rfl⟩
  have hforeign : Argb.Foreign (.ofInt 4294967296) := by
    intro i hi
    cases Numeral.integer?_ofInt 4294967296 ▸ hi
    decide
  have hread := hcall (.createText "\"\n" .black 12) (.ofInt (-16777216)) fun color hcolor => by
    cases hcolor
    exact hspelling
  exact ⟨hspelling, hread, hforeign,
    hsettings {} (.ofInt 4294967296) (Numeral.wellFormed_ofInt _) hforeign⟩

end Wire

end SpriteStage
