import BuildRunner.Proofs.Event.Record

set_option autoImplicit false

/-! # Events are taken back

What is written for an event is read as that event, except that an empty label is no label to a
reader (`ToolEvent.ofJson_toJson`), and no event that is read has an empty label
(`ToolEvent.labels_kept`). The same holds of every part of an event. Both go by recursion: the first
over the spans inside a span, the second over the trees inside a tree.
-/

namespace BuildRunner

open Json (Record fill fill_vacant fill_eq_ok put_eq_ok asList asOption asText_string asBool_bool
  asWord_word asList_map asOption_ok ok_bind bind_eq_ok pure_eq_ok map_eq_ok)

/-! ## Labels -/

mutual

/-- The labels of a span and of the spans inside it. -/
def Span.labels : Span → List String
  | ⟨_, _, _, _, _, _, _, _, label, expansion, _⟩ => label.toList ++ Expansion.labels? expansion
termination_by structural s => s

def Expansion.labels? : Option (Expansion Span) → List String
  | none => []
  | some ⟨span, _, definition⟩ => Span.labels span ++ Span.labels? definition
termination_by structural e => e

def Span.labels? : Option Span → List String
  | none => []
  | some s => Span.labels s
termination_by structural s => s

end

def Expansion.labels (e : Expansion Span) : List String := Expansion.labels? (some e)

def CompilerMessage.labels (m : CompilerMessage) : List String := m.spans.flatMap Span.labels

def ToolEvent.labels (e : ToolEvent) : List String := (e.message?.map CompilerMessage.labels).getD []

/-! ## Highlighted text -/

namespace SpanText

def slot (t : SpanText) : Field → Json
  | .text => .string t.text
  | .highlightStart => Json.word t.highlightStart
  | .highlightEnd => Json.word t.highlightEnd

theorem ofJson_toJson (t : SpanText) : ofJson t.toJson = .ok t := by
  refine record.ofJson_fields t.slot (by decide)
    (d := ⟨some t.text, some t.highlightStart, some t.highlightEnd⟩) ?_ rfl
  simp only [record, Field.all, List.foldlM_cons, List.foldlM_nil, slot, Draft.put, bind_assoc,
    pure_bind, ok_bind, fill_vacant (asText_string _), fill_vacant (asWord_word _)]
  rfl

end SpanText

/-! ## Spans and expansions -/

namespace Span

def slot (s : Span) : Field → Json
  | .fileName => .string s.fileName
  | .byteStart => Json.word s.byteStart
  | .byteEnd => Json.word s.byteEnd
  | .lineStart => Json.word s.lineStart
  | .lineEnd => Json.word s.lineEnd
  | .columnStart => Json.word s.columnStart
  | .columnEnd => Json.word s.columnEnd
  | .isPrimary => .bool s.isPrimary
  | .label => Json.ofText? s.label
  | .expansion => Expansion.toJson? s.expansion
  | .text => .array (s.text.map SpanText.toJson)

/-- A label that is not empty is taken back. -/
theorem asLabel_ofText? {label : Option String} (kept : "" ∉ label.toList) :
    asLabel (Json.ofText? label) = .ok label := by
  cases label with
  | none => rfl
  | some l =>
      have hl : l ≠ "" := fun h => kept (by simp [h])
      show Except.ok ((some l).filter (· ≠ "")) = _
      rw [Option.filter_some, if_pos (by simpa using hl)]

/-- A span is taken back if its label and its expansion are. -/
theorem ofJson_of_parts {s : Span} (label : "" ∉ s.label.toList)
    (expansion : Expansion.ofJson? (Expansion.toJson? s.expansion) = .ok s.expansion) :
    ofJson s.toJson = .ok s := by
  have text : asList SpanText.ofJson (.array (s.text.map SpanText.toJson)) = .ok s.text :=
    asList_map fun t _ => t.ofJson_toJson
  have fields : s.toJson = .object (record.fields.map fun f => (record.key f, s.slot f)) := by
    cases s
    rfl
  rw [ofJson_eq, fields]
  -- The draft in which every slot has been filled.
  refine record.ofJson_fields s.slot (by decide)
    (d := ⟨some s.fileName, some s.byteStart, some s.byteEnd, some s.lineStart, some s.lineEnd,
      some s.columnStart, some s.columnEnd, some s.isPrimary, some s.label, some s.expansion,
      some s.text⟩) ?_ (by cases s; rfl)
  simp only [record, Field.all, List.foldlM_cons, List.foldlM_nil, slot, Draft.put, bind_assoc,
    pure_bind, ok_bind, fill_vacant (asText_string _), fill_vacant (asWord_word _),
    fill_vacant (asBool_bool _), fill_vacant (asLabel_ofText? label), fill_vacant expansion,
    fill_vacant text]
  rfl

end Span

namespace Expansion

def slot (e : Expansion Span) : Field → Json
  | .span => e.span.toJson
  | .macroName => .string e.macroName
  | .definition => Span.toJson? e.definition

/-- An expansion is taken back if its spans are. -/
theorem ofJson?_of_parts {e : Expansion Span} (span : Span.ofJson e.span.toJson = .ok e.span)
    (definition : asOption Span.ofJson (Span.toJson? e.definition) = .ok e.definition) :
    ofJson? (toJson? (some e)) = .ok (some e) := by
  have fields : toJson? (some e) = .object (record.fields.map fun f => (record.key f, slot e f)) := by
    cases e
    rfl
  rw [ofJson?_eq]
  refine asOption_ok ?_ (by rw [fields]; rfl)
  rw [fields]
  refine record.ofJson_fields (slot e) (by decide)
    (d := ⟨some e.span, some e.macroName, some e.definition⟩) ?_ rfl
  simp only [record, Field.all, List.foldlM_cons, List.foldlM_nil, slot, Draft.put, bind_assoc,
    pure_bind, ok_bind, fill_vacant (asText_string _), fill_vacant span, fill_vacant definition]
  rfl

end Expansion

/-- A span is written as an object. -/
theorem Span.isNull_toJson (s : Span) : s.toJson.isNull = false := by
  cases s
  rfl

mutual

/-- **A span without empty labels is taken back**, however deep it is. -/
theorem Span.ofJson_toJson : ∀ s : Span, "" ∉ s.labels → Span.ofJson s.toJson = .ok s
  | ⟨_, _, _, _, _, _, _, _, _, expansion, _⟩, kept => by
      obtain ⟨label, inside⟩ := not_or.mp (mt List.mem_append.mpr kept)
      exact Span.ofJson_of_parts label (Expansion.ofJson?_toJson? expansion inside)

theorem Expansion.ofJson?_toJson? : ∀ e : Option (Expansion Span),
    "" ∉ Expansion.labels? e → Expansion.ofJson? (Expansion.toJson? e) = .ok e
  | none, _ => rfl
  | some ⟨span, _, definition⟩, kept => by
      obtain ⟨call, site⟩ := not_or.mp (mt List.mem_append.mpr kept)
      exact Expansion.ofJson?_of_parts (Span.ofJson_toJson span call)
        (Span.asOption_toJson? definition site)

theorem Span.asOption_toJson? : ∀ s : Option Span,
    "" ∉ Span.labels? s → asOption Span.ofJson (Span.toJson? s) = .ok s
  | none, _ => rfl
  | some s, kept => asOption_ok (Span.ofJson_toJson s kept) s.isNull_toJson

end

/-- An expansion without empty labels is taken back. -/
theorem Expansion.ofJson_toJson (e : Expansion Span) (kept : "" ∉ e.labels) :
    Expansion.ofJson e.toJson = .ok e := by
  have read : Expansion.ofJson? e.toJson = .ok (some e) := Expansion.ofJson?_toJson? (some e) kept
  rw [Expansion.ofJson, read]
  rfl

/-! ## What is read has no empty labels -/

namespace Span

/-- The labels that have been read are not empty. -/
structure Draft.Kept (d : Draft) : Prop where
  label : ∀ l, d.label = some l → "" ∉ l.toList
  expansion : ∀ e, d.expansion = some e → "" ∉ Expansion.labels? e

theorem kept_empty : ({} : Draft).Kept := ⟨by simp, by simp⟩

theorem asLabel_kept {v : Json} {l : Option String} (h : asLabel v = .ok l) : "" ∉ l.toList := by
  obtain ⟨l', -, rfl⟩ := map_eq_ok.mp h
  cases l' with
  | none => nofun
  | some s =>
      rw [Option.filter_some]
      split
      · rename_i hs
        rw [Option.toList_some, List.mem_singleton]
        exact fun empty => of_decide_eq_true hs empty.symm
      · nofun

theorem put_kept {d d' : Draft} {f : Field} {v : Json}
    (inside : ∀ e, Expansion.ofJson? v = .ok e → "" ∉ Expansion.labels? e)
    (h : record.put d f v = .ok d') (hd : d.Kept) : d'.Kept := by
  obtain ⟨label, expansion⟩ := hd
  cases f with
  | label =>
      obtain ⟨-, l, hl, rfl⟩ := put_eq_ok.mp h
      exact ⟨fun l' hl' => Option.some.inj hl' ▸ asLabel_kept hl, expansion⟩
  | expansion =>
      obtain ⟨-, e, he, rfl⟩ := put_eq_ok.mp h
      exact ⟨label, fun e' he' => Option.some.inj he' ▸ inside e he⟩
  | _ =>
      obtain ⟨-, _, -, rfl⟩ := put_eq_ok.mp h
      exact ⟨label, expansion⟩

theorem finish_kept {d : Draft} (hd : d.Kept) : "" ∉ d.finish.labels := by
  show "" ∉ (d.label.getD none).toList ++ Expansion.labels? (d.expansion.getD none)
  rw [List.mem_append, not_or]
  refine ⟨?_, ?_⟩
  · cases hl : d.label with
    | none => nofun
    | some l => exact hd.label l hl
  · cases he : d.expansion with
    | none => nofun
    | some e => exact hd.expansion e he

end Span

namespace Expansion

structure Draft.Kept (d : Draft) : Prop where
  span : ∀ s, d.span = some s → "" ∉ s.labels
  definition : ∀ s, d.definition = some s → "" ∉ Span.labels? s

theorem kept_empty : ({} : Draft).Kept := ⟨by simp, by simp⟩

theorem put_kept {d d' : Draft} {f : Field} {v : Json}
    (inside : ∀ s, Span.ofJson v = .ok s → "" ∉ s.labels)
    (h : record.put d f v = .ok d') (hd : d.Kept) : d'.Kept := by
  obtain ⟨span, definition⟩ := hd
  cases f with
  | span =>
      obtain ⟨-, s, hs, rfl⟩ := put_eq_ok.mp h
      exact ⟨fun s' hs' => Option.some.inj hs' ▸ inside s hs, definition⟩
  | macroName =>
      obtain ⟨-, _, -, rfl⟩ := put_eq_ok.mp h
      exact ⟨span, definition⟩
  | definition =>
      obtain ⟨-, s, hs, rfl⟩ := put_eq_ok.mp h
      refine ⟨span, fun s' hs' => Option.some.inj hs' ▸ ?_⟩
      cases s with
      | none => nofun
      | some s => exact inside s (Json.asOption_eq_ok hs)

theorem finish_kept {form : Json.Form} {d : Draft} {e : Expansion Span}
    (h : record.finish form d = .ok e) (hd : d.Kept) : "" ∉ e.labels := by
  obtain ⟨s, hs, h⟩ := bind_eq_ok.mp h
  rw [← pure_eq_ok.mp h]
  have read : d.span = some s := Json.required_eq_ok.mp hs
  show "" ∉ s.labels ++ Span.labels? (d.definition.getD none)
  rw [List.mem_append, not_or]
  refine ⟨hd.span s read, ?_⟩
  cases hdef : d.definition with
  | none => nofun
  | some s => exact hd.definition s hdef

end Expansion

/-- **No span that is read has an empty label**, however deep it is. -/
theorem labels_kept (j : Json) :
    (∀ s, Span.ofJson j = .ok s → "" ∉ s.labels) ∧
      ∀ e, Expansion.ofJson? j = .ok e → "" ∉ Expansion.labels? e := by
  -- The spans inside a span are read from trees below, so both parts go by one induction on the tree.
  induction j using Json.tree_induction with
  | step j below =>
      constructor
      · intro s hs
        rw [Span.ofJson_eq] at hs
        refine Record.ofJson_keeps (P := Span.Draft.Kept) (Q := fun s => "" ∉ s.labels)
          Span.kept_empty (fun k hk d f d' => Span.put_kept (below k hk).2) (fun form d s h hd => ?_) hs
        exact Except.ok.inj h ▸ Span.finish_kept hd
      · rintro (_ | e) he
        · nofun
        · rw [Expansion.ofJson?_eq] at he
          exact Record.ofJson_keeps (P := Expansion.Draft.Kept) (Q := fun e => "" ∉ e.labels)
            Expansion.kept_empty (fun k hk d f d' => Expansion.put_kept (below k hk).1)
            (fun form d e => Expansion.finish_kept) (Json.asOption_eq_ok he)

theorem Span.labels_kept {j : Json} {s : Span} (h : Span.ofJson j = .ok s) : "" ∉ s.labels :=
  (BuildRunner.labels_kept j).1 s h

theorem Expansion.labels_kept {j : Json} {e : Expansion Span} (h : Expansion.ofJson j = .ok e) :
    "" ∉ e.labels := by
  obtain ⟨e?, he, h⟩ := bind_eq_ok.mp h
  cases e? with
  | none => cases h
  | some e' =>
      obtain rfl := pure_eq_ok.mp h
      exact (BuildRunner.labels_kept j).2 (some e') he

/-! ## Child messages -/

namespace Child

def slot (c : Child) : Field → Json
  | .level => .string c.level
  | .message => .string c.message
  | .children => .array (c.children.map toJson)

theorem listToJson_eq (cs : List Child) : listToJson cs = cs.map toJson := by
  induction cs with
  | nil => rfl
  | cons c cs ih => rw [listToJson, ih, List.map_cons]

/-- A child message is taken back if those inside it are. -/
theorem ofJson_of_parts {c : Child} (inside : ∀ x ∈ c.children, ofJson x.toJson = .ok x) :
    ofJson c.toJson = .ok c := by
  have children : asList ofJson (.array (c.children.map toJson)) = .ok c.children := asList_map inside
  have fields : c.toJson = .object (record.fields.map fun f => (record.key f, c.slot f)) := by
    cases c
    rw [toJson, listToJson_eq]
    rfl
  rw [ofJson_eq, fields]
  refine record.ofJson_fields c.slot (by decide)
    (d := ⟨some c.level, some c.message, some c.children⟩) ?_ (by cases c; rfl)
  simp only [record, Field.all, List.foldlM_cons, List.foldlM_nil, slot, Draft.put, bind_assoc,
    pure_bind, ok_bind, fill_vacant (asText_string _), fill_vacant children]
  rfl

mutual

theorem ofJson_toJson : ∀ c : Child, ofJson c.toJson = .ok c
  | ⟨_, _, children⟩ => ofJson_of_parts (all_ofJson_toJson children)

theorem all_ofJson_toJson : ∀ cs : List Child, ∀ c ∈ cs, ofJson c.toJson = .ok c
  | [] => nofun
  | c :: cs => List.forall_mem_cons.mpr ⟨ofJson_toJson c, all_ofJson_toJson cs⟩

end

end Child

/-! ## Compiler messages -/

namespace CompilerMessage

def slot (m : CompilerMessage) : Field → Json
  | .level => .string m.level
  | .message => .string m.message
  | .code => Json.ofText? m.code
  | .spans => .array (m.spans.map Span.toJson)
  | .children => .array (Child.listToJson m.children)

theorem asCode_ofText? (code : Option String) : asOption asCode (Json.ofText? code) = .ok code := by
  cases code <;> rfl

theorem ofJson_toJson (m : CompilerMessage) (kept : "" ∉ m.labels) : ofJson m.toJson = .ok m := by
  have spans : asList Span.ofJson (.array (m.spans.map Span.toJson)) = .ok m.spans :=
    asList_map fun s hs => s.ofJson_toJson fun h => kept (List.mem_flatMap.mpr ⟨s, hs, h⟩)
  have children : Child.listOfJson (.array (Child.listToJson m.children)) = .ok m.children := by
    rw [Child.listOfJson_eq, Child.listToJson_eq]
    exact asList_map fun c _ => c.ofJson_toJson
  refine record.ofJson_fields m.slot (by decide)
    (d := ⟨some m.level, some m.message, some m.code, some m.spans, some m.children⟩) ?_ rfl
  simp only [record, Field.all, List.foldlM_cons, List.foldlM_nil, slot, Draft.put, bind_assoc,
    pure_bind, ok_bind, fill_vacant (asText_string _), fill_vacant (asCode_ofText? _),
    fill_vacant spans, fill_vacant children]
  rfl

def Draft.Kept (d : Draft) : Prop := ∀ ss, d.spans = some ss → ∀ s ∈ ss, "" ∉ s.labels

theorem kept_empty : ({} : Draft).Kept := nofun

theorem put_kept {d d' : Draft} {f : Field} {v : Json} (h : record.put d f v = .ok d') (hd : d.Kept) :
    d'.Kept := by
  cases f with
  | spans =>
      obtain ⟨-, ss, hss, rfl⟩ := put_eq_ok.mp h
      intro ss' same s hs
      obtain rfl := Option.some.inj same
      obtain ⟨k, -, hk⟩ := Json.asList_eq_ok hss s hs
      exact Span.labels_kept hk
  | _ =>
      obtain ⟨-, _, -, rfl⟩ := put_eq_ok.mp h
      exact hd

theorem labels_kept {j : Json} {m : CompilerMessage} (h : ofJson j = .ok m) : "" ∉ m.labels := by
  refine Record.ofJson_keeps (P := Draft.Kept) (Q := fun m => "" ∉ m.labels) kept_empty
    (fun k _ d f d' => put_kept) (fun form d m h hd => ?_) h
  obtain rfl := Except.ok.inj h
  show "" ∉ (d.spans.getD []).flatMap Span.labels
  cases hs : d.spans with
  | none => nofun
  | some ss =>
      intro empty
      obtain ⟨s, hmem, hlabel⟩ := List.mem_flatMap.mp empty
      exact hd ss hs s hmem hlabel

end CompilerMessage

/-! ## Events -/

namespace ToolEvent

theorem ofJson_toJson (e : ToolEvent) (kept : "" ∉ e.labels) : ofJson e.toJson = .ok e := by
  cases e with
  | other => rfl
  | compilerMessage m =>
      have payload : fill messageKey none CompilerMessage.ofJson m.toJson = .ok (some m) :=
        fill_vacant (m.ofJson_toJson kept)
      have found : payloadOf none
          [(reasonKey, .string compilerMessageReason), (messageKey, m.toJson)] = .ok (some m) := by
        rw [payloadOf, if_neg (by decide), payloadOf, if_pos rfl, payload]
        rfl
      show ofReason compilerMessageReason _ = _
      rw [ofReason, if_pos rfl, found]
      rfl

/-- A payload comes from a member. -/
theorem payloadOf_eq_ok {found : Option CompilerMessage} {ms : List (String × Json)}
    {m : CompilerMessage} (h : payloadOf found ms = .ok (some m)) :
    found = some m ∨ ∃ j ∈ ms.map Prod.snd, CompilerMessage.ofJson j = .ok m := by
  induction ms generalizing found with
  | nil => exact .inl (Except.ok.inj h)
  | cons x ms ih =>
      obtain ⟨k, v⟩ := x
      rw [payloadOf] at h
      split at h
      · obtain ⟨next, filled, h⟩ := bind_eq_ok.mp h
        obtain ⟨-, m', hm, rfl⟩ := fill_eq_ok.mp filled
        rcases ih h with same | ⟨j, hj, read⟩
        · exact .inr ⟨v, List.mem_cons_self, Option.some.inj same ▸ hm⟩
        · exact .inr ⟨j, List.mem_cons_of_mem v hj, read⟩
      · exact (ih h).imp_right fun ⟨j, hj, read⟩ => ⟨j, List.mem_cons_of_mem v hj, read⟩

/-- The message of an event comes from a tree directly below. -/
theorem message_eq_ok {j : Json} {m : CompilerMessage} (h : ofJson j = .ok (.compilerMessage m)) :
    ∃ k ∈ j.children, CompilerMessage.ofJson k = .ok m := by
  -- In an object the message stands under its key, in a list behind the reason.
  cases j with
  | object ms =>
      obtain ⟨found, -, h⟩ := bind_eq_ok.mp h
      obtain ⟨reason, -, h⟩ := bind_eq_ok.mp h
      rw [ofReason] at h
      split at h
      · obtain ⟨found, payload, h⟩ := bind_eq_ok.mp h
        obtain ⟨m', hm, h⟩ := bind_eq_ok.mp h
        obtain rfl := Json.required_eq_ok.mp hm
        obtain rfl := ToolEvent.compilerMessage.inj (pure_eq_ok.mp h)
        exact (payloadOf_eq_ok payload).resolve_left nofun
      · cases h
  | array js =>
      cases js with
      | nil => cases h
      | cons head js =>
          obtain ⟨reason, -, h⟩ := bind_eq_ok.mp h
          unfold ofReasonItems at h
          split at h
          · cases js with
            | nil => cases h
            | cons j rest =>
                obtain ⟨m', hm, h⟩ := bind_eq_ok.mp h
                refine ⟨j, List.mem_cons_of_mem head List.mem_cons_self, ?_⟩
                split at h
                · rwa [← ToolEvent.compilerMessage.inj (pure_eq_ok.mp h)]
                · cases h
          · split at h <;> cases h
  | _ => cases h

theorem labels_kept {j : Json} {e : ToolEvent} (h : ofJson j = .ok e) : "" ∉ e.labels := by
  cases e with
  | other => nofun
  | compilerMessage m =>
      obtain ⟨k, -, hk⟩ := message_eq_ok h
      exact CompilerMessage.labels_kept hk

end ToolEvent

end BuildRunner
