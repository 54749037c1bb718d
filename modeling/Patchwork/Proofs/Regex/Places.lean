import Patchwork.Proofs.Regex.Traces

namespace Patchwork.Regex

def Cursor.Lies (text : String) (c : Cursor) : Prop :=
  ∃ before, text.toList = before ++ c.rest ∧ c.offset = Text.byteLength before

variable {text : String} {c c' : Cursor} {gs : List (Nat × Span)}

namespace Cursor

theorem lies_start (text : String) : (start text).Lies text := ⟨[], rfl, rfl⟩

theorem Lies.isBoundary (h : c.Lies text) : Text.isBoundary c.offset text.toList := by
  obtain ⟨before, htext, hoffset⟩ := h
  rw [htext, hoffset]
  exact Text.isBoundary_append before c.rest

theorem Lies.covers (h : c.Lies text) (h' : c'.Lies text) (hle : c.offset ≤ c'.offset) :
    Text.covers text ⟨c.offset, c'.offset⟩ := by
  simp [Text.covers, hle, h.isBoundary, h'.isBoundary]

theorem Lies.step {previous previous' : Option Char} {x : Char} {rest : List Char} {offset : Nat}
    (h : Lies text ⟨previous, x :: rest, offset⟩) :
    Lies text ⟨previous', rest, offset + x.utf8Size⟩ := by
  obtain ⟨before, htext, hoffset⟩ := h
  refine ⟨before ++ [x], by simp [htext], ?_⟩
  simpa using hoffset

theorem Lies.advance {x : Char} (h : c.Lies text) (hstep : c.advance? = some (x, c')) :
    c'.Lies text ∧ c.offset ≤ c'.offset := by
  obtain ⟨previous, rest, offset⟩ := c
  cases rest with
  | nil => cases hstep
  | cons y rest =>
      cases hstep
      exact ⟨h.step, Nat.le_add_right _ _⟩

theorem Lies.seek {position offset : Nat} {previous : Option Char} {rest : List Char}
    (h : Lies text ⟨previous, rest, offset⟩) (hseek : seek? position previous offset rest = some c) :
    c.Lies text := by
  induction rest generalizing previous offset with
  | nil =>
      simp only [seek?] at hseek
      split at hseek <;> cases hseek
      exact h
  | cons x rest ih =>
      simp only [seek?] at hseek
      split at hseek
      · cases hseek
        exact h
      · exact ih h.step hseek

end Cursor

structure Leads (text : String) (c c' : Cursor) (gs : List (Nat × Span)) : Prop where
  lies : c'.Lies text
  le : c.offset ≤ c'.offset
  covers : ∀ g ∈ gs, Text.covers text g.2

theorem Leads.stay (h : c.Lies text) : Leads text c c [] := ⟨h, Nat.le_refl _, by simp⟩

theorem Leads.append {c'' : Cursor} {hs : List (Nat × Span)} (h : Leads text c c' gs)
    (h' : Leads text c' c'' hs) : Leads text c c'' (hs ++ gs) where
  lies := h'.lies
  le := Nat.le_trans h.le h'.le
  covers := List.forall_mem_append.2 ⟨h'.covers, h.covers⟩

theorem Program.Traces.leads {p : Program} (h : p.Traces c c' gs) (hc : c.Lies text) :
    Leads text c c' gs := by
  induction h with
  | empty | look | leave => exact .stay hc
  | chars hstep =>
      obtain ⟨hlies, hle⟩ := hc.advance hstep
      exact ⟨hlies, hle, by simp⟩
  | capture _ ih =>
      obtain ⟨hlies, hle, hcovers⟩ := ih hc
      exact ⟨hlies, hle, List.forall_mem_cons.2 ⟨hc.covers hlies hle, hcovers⟩⟩
  | seq _ _ ihp ihq =>
      have hp := ihp hc
      exact hp.append (ihq hp.lies)
  | first _ ih | second _ ih => exact ih hc
  | again _ _ ihp ihloop =>
      have hp := ihp hc
      exact hp.append (ihloop hp.lies)

variable {r : Regex} {t : Task}

theorem Machine.leads_of_runFrom {m : Machine} {previous : Option Char} {offset : Nat} {cs : List Char}
    (hc : Cursor.Lies text ⟨previous, cs, offset⟩) (h : m.runFrom previous offset cs = some t) :
    ∃ c, Leads text c t.cursor t.groups := by
  induction cs generalizing previous offset with
  | nil => exact ⟨_, (traces_of_runAt h).leads hc⟩
  | cons x cs ih =>
      rcases Option.or_eq_some_iff.1 h with hat | ⟨-, hfrom⟩
      · exact ⟨_, (traces_of_runAt hat).leads hc⟩
      · exact ih hc.step hfrom

theorem keeps_lies (r : Regex) (text : String) : r.Keeps (Cursor.Lies text) where
  search hc h := (Machine.leads_of_runFrom hc h).choose_spec.lies
  advance hc hstep := (hc.advance hstep).1

theorem covers_of_searchFrom (hc : c.Lies text) (h : r.searchFrom c = some t) {span : Span}
    (hspan : some span ∈ r.spans t) : Text.covers text span := by
  obtain ⟨i, -, hi⟩ := List.mem_map.1 hspan
  obtain ⟨g, hg, rfl⟩ := Option.map_eq_some_iff.1 hi
  obtain ⟨c', hleads⟩ := Machine.leads_of_runFrom hc h
  exact hleads.covers g (List.mem_of_find?_eq_some hg)

theorem covers_of_find? {position : Nat} {spans : List (Option Span)}
    (h : r.find? text position = some spans) {span : Span} (hspan : some span ∈ spans) :
    Text.covers text span := by
  obtain ⟨cursor, hseek, h⟩ := Option.bind_eq_some_iff.1 h
  obtain ⟨t, ht, heq⟩ := Option.bind_eq_some_iff.1 h
  cases heq
  exact covers_of_searchFrom ((Cursor.lies_start text).seek hseek) ht hspan

theorem covers_of_mem_allFrom {fuel : Nat} {lastEnd : Option Nat} {spans : List (Option Span)}
    (hc : c.Lies text) (h : spans ∈ r.allFrom fuel lastEnd c) {span : Span} (hspan : some span ∈ spans) :
    Text.covers text span := by
  obtain ⟨cursor, t, hlies, ht, rfl⟩ := (r.keeps_lies text).allFrom hc h
  exact covers_of_searchFrom hlies ht hspan

end Patchwork.Regex
