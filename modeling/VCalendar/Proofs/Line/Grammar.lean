import VCalendar.Error

/-!
# The grammar of property lines

A property line is written from a name, parameters and a value. The value of a
parameter stands bare or between double quotes, and every piece in front of the
value has to be closed for the characters that would end it too early. Main
statement: cutting a line into its pieces succeeds exactly on the lines that are
written so, and no line is written in two ways.
-/

namespace VCalendar.Line

/-! ## Closed segments -/

/-- A segment that a scan for `stops` crosses from end to end. A backslash takes
the character behind it along, so none stands alone at the end. -/
inductive Closed (stops : List Char) : List Char → Prop where
  | nil : Closed stops []
  | escaped {c : Char} {cs : List Char} :
      Closed stops cs → Closed stops ('\\' :: c :: cs)
  | plain {c : Char} {cs : List Char} :
      c ≠ '\\' → c ∉ stops → Closed stops cs → Closed stops (c :: cs)

variable {stops cs segment after : List Char} {c stop : Char}

theorem not_closed_dangling : ¬ Closed stops ['\\'] := by
  intro h
  cases h with
  | plain hne _ _ => exact hne rfl

theorem closed_escaped_iff : Closed stops ('\\' :: c :: cs) ↔ Closed stops cs := by
  constructor
  · intro h
    cases h with
    | escaped h => exact h
    | plain hne _ _ => exact absurd rfl hne
  · exact .escaped

theorem closed_plain_iff (hne : c ≠ '\\') :
    Closed stops (c :: cs) ↔ c ∉ stops ∧ Closed stops cs := by
  constructor
  · intro h
    cases h with
    | escaped _ => exact absurd rfl hne
    | plain _ hc h => exact ⟨hc, h⟩
  · rintro ⟨hc, h⟩
    exact .plain hne hc h

instance decidableClosed (stops : List Char) : DecidablePred (Closed stops)
  | [] => isTrue .nil
  | [c] =>
      if h : c = '\\' then isFalse (h ▸ not_closed_dangling)
      else
        have := decidableClosed stops []
        decidable_of_iff _ (closed_plain_iff h).symm
  | c :: d :: cs =>
      if h : c = '\\' then
        have := decidableClosed stops cs
        decidable_of_iff _ (h ▸ closed_escaped_iff.symm)
      else
        have := decidableClosed stops (d :: cs)
        decidable_of_iff _ (closed_plain_iff h).symm

theorem scanTo_plain (hne : c ≠ '\\') :
    scanTo stops (c :: cs) =
      if c ∈ stops then some ([], c, cs)
      else (scanTo stops cs).map fun (segment, stop, after) => (c :: segment, stop, after) := by
  rw [scanTo.eq_4 _ _ _ (by simp [hne]) (by simp [hne])]
  simp

/-- A scan crosses a closed segment and ends at the stop behind it. -/
theorem scanTo_closed (h : Closed stops segment) (hmem : stop ∈ stops) (hne : stop ≠ '\\') :
    scanTo stops (segment ++ stop :: after) = some (segment, stop, after) := by
  induction h with
  | nil => rw [List.nil_append, scanTo_plain hne, if_pos hmem]
  | escaped _ ih => simp [scanTo, ih]
  | plain hc hstop _ ih =>
      rw [List.cons_append, scanTo_plain hc, if_neg hstop, ih]
      rfl

/-- What a scan leaves behind is closed for its stops, and a backslash never stops it. -/
theorem closed_of_scanTo (h : scanTo stops cs = some (segment, stop, after)) :
    Closed stops segment ∧ stop ≠ '\\' := by
  fun_induction scanTo stops cs generalizing segment stop after with
  | case1 => simp at h
  | case2 => simp at h
  | case3 c rest ih =>
      obtain ⟨⟨s, d, a⟩, hfound, hsame⟩ := Option.map_eq_some_iff.mp h
      cases hsame
      obtain ⟨hclosed, hne⟩ := ih hfound
      exact ⟨.escaped hclosed, hne⟩
  | case4 c rest hdangling hescape hstop =>
      cases h
      exact ⟨.nil, ne_backslash_of_unpaired hdangling hescape⟩
  | case5 c rest hdangling hescape hstop ih =>
      obtain ⟨⟨s, d, a⟩, hfound, hsame⟩ := Option.map_eq_some_iff.mp h
      cases hsame
      obtain ⟨hclosed, hne⟩ := ih hfound
      exact ⟨.plain (ne_backslash_of_unpaired hdangling hescape) (by simpa using hstop) hclosed,
        hne⟩

theorem scanTo_eq_some_iff :
    scanTo stops cs = some (segment, stop, after) ↔
      Closed stops segment ∧ stop ∈ stops ∧ stop ≠ '\\' ∧ cs = segment ++ stop :: after := by
  constructor
  · intro h
    obtain ⟨hclosed, hne⟩ := closed_of_scanTo h
    exact ⟨hclosed, scanTo_stop_mem h, hne, scanTo_append h⟩
  · rintro ⟨hclosed, hmem, hne, rfl⟩
    exact scanTo_closed hclosed hmem hne

/-! ## The value of a parameter -/

/-- The characters of a parameter value. -/
def valueChars (quoted : Bool) (value : List Char) : List Char :=
  if quoted then '"' :: value ++ ['"'] else value

/-- Between quotes only a quote ends a value. A bare value ends at a delimiter
and does not begin with a quote. -/
def ClosedValue (quoted : Bool) (value : List Char) : Prop :=
  if quoted then Closed ['"'] value
  else Closed [';', ':'] value ∧ value.head? ≠ some '"'

instance (quoted : Bool) (value : List Char) : Decidable (ClosedValue quoted value) := by
  unfold ClosedValue
  infer_instance

theorem valueChars_inj {q q' : Bool} {value : List Char}
    (h : valueChars q value = valueChars q' value) : q = q' := by
  have hlen := congrArg List.length h
  cases q <;> cases q'
  · rfl
  · simp [valueChars] at hlen
    omega
  · simp [valueChars] at hlen
    omega
  · rfl

theorem readParameterValue_bare (hhead : cs.head? ≠ some '"') :
    readParameterValue cs =
      match scanTo [';', ':'] cs with
      | none => .error .unendedValue
      | some piece => .ok piece := by
  apply readParameterValue.eq_2
  rintro quoted rfl
  exact hhead rfl

theorem readParameterValue_written {quoted : Bool} {value : List Char}
    (h : ClosedValue quoted value) (hstop : stop = ';' ∨ stop = ':') :
    readParameterValue (valueChars quoted value ++ stop :: after) =
      .ok (value, stop, after) := by
  cases quoted with
  | true =>
      have hscan : scanTo ['"'] (value ++ '"' :: stop :: after) =
          some (value, '"', stop :: after) :=
        scanTo_closed h (by simp) (by decide)
      simp [valueChars, readParameterValue, hscan, hstop]
  | false =>
      obtain ⟨hclosed, hhead⟩ := h
      have hbare : (value ++ stop :: after).head? ≠ some '"' := by
        cases value with
        | nil => rcases hstop with rfl | rfl <;> simp
        | cons c cs => simpa using hhead
      have hscan : scanTo [';', ':'] (value ++ stop :: after) = some (value, stop, after) :=
        scanTo_closed hclosed (by simpa using hstop) (by rcases hstop with rfl | rfl <;> decide)
      show readParameterValue (value ++ stop :: after) = _
      rw [readParameterValue_bare hbare, hscan]

theorem written_of_readParameterValue {value : List Char}
    (h : readParameterValue cs = .ok (value, stop, after)) :
    (stop = ';' ∨ stop = ':') ∧
      ∃ quoted, ClosedValue quoted value ∧ cs = valueChars quoted value ++ stop :: after := by
  by_cases hhead : cs.head? = some '"'
  · obtain ⟨body, rfl⟩ := List.head?_eq_some_iff.mp hhead
    rw [readParameterValue] at h
    split at h
    · cases h
    · cases h
    · rename_i v d c rest hfound
      split at h
      · rename_i hc
        cases h
        obtain ⟨hclosed, hmem, -, rfl⟩ := scanTo_eq_some_iff.mp hfound
        obtain rfl : d = '"' := by simpa using hmem
        exact ⟨hc, true, hclosed, by simp [valueChars]⟩
      · cases h
  · rw [readParameterValue_bare hhead] at h
    split at h
    · cases h
    · rename_i piece hfound
      cases h
      obtain ⟨hclosed, hmem, -, rfl⟩ := scanTo_eq_some_iff.mp hfound
      -- a value that began with a quote would have been read as a quoted one
      refine ⟨by simpa using hmem, false, ⟨hclosed, ?_⟩, rfl⟩
      intro hvalue
      obtain ⟨body, rfl⟩ := List.head?_eq_some_iff.mp hvalue
      exact hhead rfl

/-! ## Parameters -/

/-- A parameter as it is written: with or without quotes around its value. -/
structure WrittenParameter where
  parameter : Parameter
  quoted : Bool
deriving DecidableEq, Repr

namespace WrittenParameter

def chars (w : WrittenParameter) : List Char :=
  w.parameter.name.toList ++ '=' :: valueChars w.quoted w.parameter.value.toList

/-- Both pieces end where they should. -/
structure WellFormed (w : WrittenParameter) : Prop where
  name : Closed ['=', ';', ':'] w.parameter.name.toList
  value : ClosedValue w.quoted w.parameter.value.toList

instance (w : WrittenParameter) : Decidable w.WellFormed :=
  decidable_of_iff (Closed ['=', ';', ':'] w.parameter.name.toList ∧
    ClosedValue w.quoted w.parameter.value.toList) ⟨fun h => ⟨h.1, h.2⟩, fun h => ⟨h.1, h.2⟩⟩

end WrittenParameter

theorem readParameter_written {w : WrittenParameter} (h : w.WellFormed)
    (hstop : stop = ';' ∨ stop = ':') :
    readParameter (w.chars ++ stop :: after) = .ok (w.parameter, stop, after) := by
  have hscan : scanTo ['=', ';', ':'] (w.chars ++ stop :: after) =
      some (w.parameter.name.toList, '=',
        valueChars w.quoted w.parameter.value.toList ++ stop :: after) := by
    rw [WrittenParameter.chars, List.append_assoc]
    exact scanTo_closed h.name (by simp) (by decide)
  simp [readParameter, hscan, readParameterValue_written h.value hstop, Except.map]

theorem written_of_readParameter {p : Parameter}
    (h : readParameter cs = .ok (p, stop, after)) :
    (stop = ';' ∨ stop = ':') ∧
      ∃ w : WrittenParameter, w.WellFormed ∧ w.parameter = p ∧ cs = w.chars ++ stop :: after := by
  unfold readParameter at h
  split at h
  · rename_i name rest hfound
    cases hread : readParameterValue rest with
    | error e => simp [hread, Except.map] at h
    | ok piece =>
        obtain ⟨value, d, a⟩ := piece
        simp only [hread, Except.map, Except.ok.injEq, Prod.mk.injEq] at h
        obtain ⟨rfl, rfl, rfl⟩ := h
        obtain ⟨hclosed, -, -, rfl⟩ := scanTo_eq_some_iff.mp hfound
        obtain ⟨hstop, quoted, hvalue, rfl⟩ := written_of_readParameterValue hread
        refine ⟨hstop, ⟨⟨String.ofList name, String.ofList value⟩, quoted⟩, ⟨?_, ?_⟩, rfl, ?_⟩
        · simpa using hclosed
        · simpa using hvalue
        · simp [WrittenParameter.chars]
  · cases h

/-- A written parameter and what follows it can be told apart. -/
theorem WrittenParameter.chars_append_inj {w w' : WrittenParameter} {stop' : Char}
    {after' : List Char} (h : w.WellFormed) (h' : w'.WellFormed)
    (hstop : stop = ';' ∨ stop = ':') (hstop' : stop' = ';' ∨ stop' = ':')
    (heq : w.chars ++ stop :: after = w'.chars ++ stop' :: after') :
    w = w' ∧ stop :: after = stop' :: after' := by
  have hread : readParameter (w.chars ++ stop :: after) = .ok (w.parameter, stop, after) :=
    readParameter_written h hstop
  rw [heq, readParameter_written h' hstop'] at hread
  simp only [Except.ok.injEq, Prod.mk.injEq] at hread
  obtain ⟨hparameter, rfl, rfl⟩ := hread
  have hchars := List.append_cancel_right heq
  obtain ⟨p, quoted⟩ := w
  obtain ⟨p', quoted'⟩ := w'
  obtain rfl : p' = p := hparameter
  simp only [WrittenParameter.chars, List.append_cancel_left_eq, List.cons.injEq, true_and]
    at hchars
  rw [valueChars_inj hchars]
  exact ⟨rfl, rfl⟩

/-! ## Lists of parameters -/

def parametersChars (ws : List WrittenParameter) : List Char :=
  ws.flatMap fun w => ';' :: w.chars

@[simp] theorem parametersChars_nil : parametersChars [] = [] := rfl

@[simp] theorem parametersChars_cons (w : WrittenParameter) (ws : List WrittenParameter) :
    parametersChars (w :: ws) = ';' :: (w.chars ++ parametersChars ws) := rfl

/-- Parameters and the value behind them begin with a delimiter. -/
theorem parametersChars_append_eq_cons (ws : List WrittenParameter) (value : List Char) :
    ∃ stop after, (stop = ';' ∨ stop = ':') ∧
      parametersChars ws ++ ':' :: value = stop :: after := by
  cases ws with
  | nil => exact ⟨':', value, Or.inr rfl, rfl⟩
  | cons w ws => exact ⟨';', w.chars ++ parametersChars ws ++ ':' :: value, Or.inl rfl, rfl⟩

theorem readParameters_written {ws : List WrittenParameter} {value : List Char}
    (h : ∀ w ∈ ws, w.WellFormed) (heq : parametersChars ws ++ ':' :: value = stop :: after) :
    readParameters stop after = .ok (ws.map (·.parameter), value) := by
  induction ws generalizing stop after with
  | nil =>
      cases heq
      rw [readParameters, if_neg (by decide)]
      rfl
  | cons w ws ih =>
      -- whatever follows begins with a delimiter, where the first parameter ends
      obtain ⟨stop', after', hstop', hrest⟩ := parametersChars_append_eq_cons ws value
      obtain ⟨hw, hws⟩ := List.forall_mem_cons.mp h
      rw [parametersChars_cons, List.cons_append, List.append_assoc, hrest] at heq
      cases heq
      have hread : readParameter (w.chars ++ stop' :: after') = .ok (w.parameter, stop', after') :=
        readParameter_written hw hstop'
      rw [readParameters, if_pos rfl]
      split
      · rename_i flaw hflaw
        rw [hread] at hflaw
        cases hflaw
      · rename_i p d rest hfound
        rw [hread] at hfound
        cases hfound
        rw [ih hws hrest]
        rfl

theorem written_of_readParameters {ps : List Parameter} {value : List Char}
    (h : readParameters stop cs = .ok (ps, value)) (hstop : stop = ';' ∨ stop = ':') :
    ∃ ws : List WrittenParameter, (∀ w ∈ ws, w.WellFormed) ∧ ws.map (·.parameter) = ps ∧
      stop :: cs = parametersChars ws ++ ':' :: value := by
  fun_induction readParameters stop cs generalizing ps value with
  | case1 => cases h
  | case2 cs p stop' rest hread _ ih =>
      cases hrest : readParameters stop' rest with
      | error flaw => simp [hrest, Except.map] at h
      | ok piece =>
          obtain ⟨ps', value'⟩ := piece
          simp only [hrest, Except.map, Except.ok.injEq, Prod.mk.injEq] at h
          obtain ⟨rfl, rfl⟩ := h
          obtain ⟨hstop', w, hw, rfl, rfl⟩ := written_of_readParameter hread
          obtain ⟨ws, hws, rfl, heq⟩ := ih hrest hstop'
          refine ⟨w :: ws, List.forall_mem_cons.mpr ⟨hw, hws⟩, rfl, ?_⟩
          rw [heq, parametersChars_cons, List.cons_append, List.append_assoc]
  | case3 stop cs hne =>
      cases h
      obtain rfl : stop = ':' := hstop.resolve_left hne
      exact ⟨[], by simp, rfl, rfl⟩

theorem parametersChars_append_inj {ws ws' : List WrittenParameter} {value value' : List Char}
    (h : ∀ w ∈ ws, w.WellFormed) (h' : ∀ w ∈ ws', w.WellFormed)
    (heq : parametersChars ws ++ ':' :: value = parametersChars ws' ++ ':' :: value') :
    ws = ws' ∧ value = value' := by
  induction ws generalizing ws' with
  | nil =>
      cases ws' with
      | nil => exact ⟨rfl, (List.cons.inj heq).2⟩
      | cons w' ws' => simp at heq
  | cons w ws ih =>
      cases ws' with
      | nil => simp at heq
      | cons w' ws' =>
          obtain ⟨hw, hws⟩ := List.forall_mem_cons.mp h
          obtain ⟨hw', hws'⟩ := List.forall_mem_cons.mp h'
          obtain ⟨stop, after, hstop, hrest⟩ := parametersChars_append_eq_cons ws value
          obtain ⟨stop', after', hstop', hrest'⟩ := parametersChars_append_eq_cons ws' value'
          simp only [parametersChars_cons, List.cons_append, List.append_assoc, List.cons.injEq,
            true_and] at heq
          rw [hrest, hrest'] at heq
          obtain ⟨rfl, htail⟩ := WrittenParameter.chars_append_inj hw hw' hstop hstop' heq
          rw [← hrest, ← hrest'] at htail
          obtain ⟨rfl, rfl⟩ := ih hws hws' htail
          exact ⟨rfl, rfl⟩

/-! ## Lines -/

/-- A property line as it is written. -/
structure WrittenLine where
  name : String
  parameters : List WrittenParameter := []
  value : String
deriving DecidableEq, Repr

namespace WrittenLine

def chars (w : WrittenLine) : List Char :=
  w.name.toList ++ (parametersChars w.parameters ++ ':' :: w.value.toList)

def text (w : WrittenLine) : String :=
  String.ofList w.chars

/-- The pieces of the line without the choice of quotes. -/
def token (w : WrittenLine) : Token :=
  ⟨w.name, w.parameters.map (·.parameter), w.value⟩

/-- The name and the parameters end where they should; the value is free. -/
structure WellFormed (w : WrittenLine) : Prop where
  name : Closed [';', ':'] w.name.toList
  parameters : ∀ p ∈ w.parameters, p.WellFormed

instance (w : WrittenLine) : Decidable w.WellFormed :=
  decidable_of_iff (Closed [';', ':'] w.name.toList ∧ ∀ p ∈ w.parameters, p.WellFormed)
    ⟨fun h => ⟨h.1, h.2⟩, fun h => ⟨h.1, h.2⟩⟩

/-- A well-formed way to write a given line. -/
def Writes (w : WrittenLine) (line : String) : Prop :=
  w.WellFormed ∧ w.text = line

end WrittenLine

theorem tokenize_written {w : WrittenLine} (h : w.WellFormed) :
    tokenize w.text = .ok w.token := by
  obtain ⟨stop, after, hstop, hrest⟩ :=
    parametersChars_append_eq_cons w.parameters w.value.toList
  have hscan : scanTo [';', ':'] w.chars = some (w.name.toList, stop, after) := by
    rw [WrittenLine.chars, hrest]
    exact scanTo_closed h.name (by simpa using hstop) (by rcases hstop with rfl | rfl <;> decide)
  simp [tokenize, WrittenLine.text, tokenizeChars, hscan,
    readParameters_written h.parameters hrest, Except.map, WrittenLine.token]

theorem written_of_tokenize {line : String} {t : Token} (h : tokenize line = .ok t) :
    ∃ w : WrittenLine, w.Writes line ∧ w.token = t := by
  rw [tokenize, tokenizeChars] at h
  split at h
  · cases h
  · rename_i name stop rest hfound
    cases hread : readParameters stop rest with
    | error flaw => simp [hread, Except.map] at h
    | ok piece =>
        obtain ⟨ps, value⟩ := piece
        simp only [hread, Except.map, Except.ok.injEq] at h
        obtain ⟨hclosed, hmem, -, hline⟩ := scanTo_eq_some_iff.mp hfound
        obtain ⟨ws, hws, rfl, heq⟩ := written_of_readParameters hread (by simpa using hmem)
        refine ⟨⟨String.ofList name, ws, String.ofList value⟩, ⟨⟨?_, hws⟩, ?_⟩, h⟩
        · simpa using hclosed
        · rw [← String.toList_inj, hline, heq]
          simp [WrittenLine.text, WrittenLine.chars]

/-- No line is written in two ways, the choice of quotes included. -/
theorem WrittenLine.text_inj {w w' : WrittenLine} (h : w.WellFormed) (h' : w'.WellFormed)
    (heq : w.text = w'.text) : w = w' := by
  -- the tokens agree, so only the choice of quotes is left to compare
  have htoken : w'.token = w.token := by
    have hread := tokenize_written h
    rw [heq, tokenize_written h'] at hread
    exact Except.ok.inj hread
  obtain ⟨name, ws, value⟩ := w
  obtain ⟨name', ws', value'⟩ := w'
  obtain rfl : name' = name := congrArg Token.name htoken
  have hchars := String.ofList_injective heq
  have htail := List.append_cancel_left hchars
  obtain ⟨rfl, hvalue⟩ := parametersChars_append_inj h.parameters h'.parameters htail
  obtain rfl : value = value' := String.toList_inj.mp hvalue
  rfl

/-- **Cutting is the inverse of writing.** A line is cut into the pieces it can be
written from, there is at most one way to write it, and exactly the lines that
cannot be written are refused as malformed. -/
theorem tokenize_eq_ok_iff_written (line : String) :
    (∀ t : Token, tokenize line = .ok t ↔ ∃ w : WrittenLine, w.Writes line ∧ w.token = t) ∧
    (∀ w w' : WrittenLine, w.Writes line → w'.Writes line → w = w') ∧
    ((¬ ∃ w : WrittenLine, w.Writes line) ↔
      ∃ flaw, tokenize line = .error flaw ∧
        ∀ number, (MalformedLine.mk number line flaw).diagnostic.kind = .malformedLine) := by
  refine ⟨?_, ?_, ?_⟩
  · intro t
    constructor
    · exact written_of_tokenize
    · rintro ⟨w, ⟨hw, rfl⟩, rfl⟩
      exact tokenize_written hw
  · rintro w w' ⟨hw, rfl⟩ ⟨hw', heq⟩
    exact WrittenLine.text_inj hw hw' heq.symm
  · constructor
    · intro hnone
      cases hread : tokenize line with
      | error flaw => exact ⟨flaw, rfl, fun _ => rfl⟩
      | ok t =>
          obtain ⟨w, hw, -⟩ := written_of_tokenize hread
          exact absurd ⟨w, hw⟩ hnone
    · rintro ⟨flaw, hflaw, -⟩ ⟨w, hw, rfl⟩
      rw [tokenize_written hw] at hflaw
      cases hflaw

/-- A delimiter inside quotes or behind a backslash is part of its piece. -/
example : tokenize "A;P=\"x;y\";Q=\\:z:a;b" =
    .ok ⟨"A", [⟨"P", "x;y"⟩, ⟨"Q", "\\:z"⟩], "a;b"⟩ := by
  cbv

end VCalendar.Line
