import PppoeSetup.Proofs.Config.Meaning

/-!
# Edits of tables

A table is seen as the function that looks a name up. An edit that succeeds gives one name another
value, and leaves what the other names have.
-/

namespace PppoeSetup.Toml

namespace Entries

variable {es : Entries} {key : Key} {v : Value} {name : String}

lemma get?_eq_none : es.get? name = none ↔ es.find? name = none := Option.map_eq_none_iff

lemma find?_of_get? (h : es.get? name = some v) :
    ∃ key, es.find? name = some (key, v) ∧ key.name = name := by
  obtain ⟨⟨key, v'⟩, hfound, rfl⟩ := Option.map_eq_some_iff.mp h
  exact ⟨key, hfound, name_of_find? hfound⟩

lemma exists_get?_of_mem {e : Key × Value} (he : e ∈ es) : ∃ v, es.get? e.1.name = some v := by
  refine Option.ne_none_iff_exists'.mp ?_
  intro hnone
  exact find?_eq_none.mp (get?_eq_none.mp hnone) e he rfl

lemma get?_cons (e : Key × Value) :
    get? (e :: es) = Function.update es.get? e.1.name (some e.2) := by
  funext n
  by_cases hn : n = e.1.name
  · subst hn
    simp [get?, find?]
  · simp [get?, find?, hn, Ne.symm hn]

lemma get?_insert (h : es.get? key.name = none) :
    (es.insert (key, v)).get? = Function.update es.get? key.name (some v) := by
  induction es with
  | nil => exact get?_cons _
  | cons e es ih =>
    have hne : key.name ≠ e.1.name := by
      intro heq
      simp [get?_cons, heq] at h
    rw [insert]
    split
    · exact get?_cons _
    · rw [get?_cons, Function.update_of_ne hne] at h
      rw [get?_cons, ih h, get?_cons, Function.update_comm hne.symm]

/-- Only a name that has a value gets the other one. -/
lemma get?_replace (hname : key.name = name) :
    Entries.get? (es.replace name (key, v)) =
      Function.update es.get? name ((es.get? name).map fun _ => v) := by
  induction es with
  | nil =>
    funext n
    by_cases hn : n = name <;> simp [hn, replace, get?, find?]
  | cons e es ih =>
    rw [replace, List.map_cons, get?_cons, ← replace, ih, get?_cons]
    split
    next he => simp [he, hname]
    next he => rw [Function.update_of_ne (Ne.symm he), Function.update_comm he]

/-- No other name has a value. -/
def NamedIn (es : Entries) (names : List String) : Prop :=
  ∀ name v, es.get? name = some v → name ∈ names

section

variable {es' : Entries} {names : List String}

lemma NamedIn.nil : NamedIn [] [] := by simp [NamedIn, get?, find?]

lemma NamedIn.get?_eq_none (h : es.NamedIn names) (hname : name ∉ names) : es.get? name = none := by
  refine Option.eq_none_iff_forall_ne_some.mpr ?_
  intro v hv
  exact hname (h name v hv)

lemma NamedIn.update (h : es.NamedIn names)
    (hget : es'.get? = Function.update es.get? name (some v)) : es'.NamedIn (names ++ [name]) := by
  intro n w hn
  by_cases hname : n = name
  · simp [hname]
  · rw [hget, Function.update_of_ne hname] at hn
    exact List.mem_append_left _ (h n w hn)

/-- Of entries with different names, one is in the table unless it has been left out. -/
lemma NamedIn.given_or {α : Type} {written : List α} {nameOf : α → String} {a : α}
    {P : Value → Prop} {D : Prop} (h : es.NamedIn (written.map nameOf))
    (hgiven : a ∈ written → ∃ v, es.get? (nameOf a) = some v ∧ P v)
    (hsame : ∀ b ∈ written, nameOf b = nameOf a → b = a) (hor : a ∈ written ∨ D) :
    (∃ v, es.get? (nameOf a) = some v ∧ P v) ∨ es.get? (nameOf a) = none ∧ D := by
  by_cases ha : a ∈ written
  · exact .inl (hgiven ha)
  · refine .inr ⟨h.get?_eq_none ?_, hor.resolve_left ha⟩
    intro hname
    obtain ⟨b, hb, heq⟩ := List.mem_map.mp hname
    exact ha (hsame b hb heq ▸ hb)

end

end Entries

namespace Edit

variable {es inner inner' : Entries} {key : Key} {v : Value} {kind : TableKind} {edit : Edit}
  {span : Span}

/-- The value of a new name. -/
lemma add_eq (h : es.get? key.name = none) (kind : TableKind) :
    ∃ es', add key v kind es = some es' ∧ es'.get? = Function.update es.get? key.name (some v) := by
  refine ⟨es.insert (key, v), ?_, Entries.get?_insert h⟩
  simp [add, Entries.get?_eq_none.mp h]

lemma header_eq (h : es.get? key.name = none) (span : Span) (kind : TableKind) :
    ∃ es', header span key kind es = some es' ∧
      es'.get? = Function.update es.get? key.name (some (.table span .header [])) := by
  refine ⟨es.insert (key, .table span .header []), ?_, Entries.get?_insert h⟩
  simp [header, Entries.get?_eq_none.mp h]

/-- An edit of a table that a dotted key makes. -/
lemma within_new (h : es.get? key.name = none) (hedit : edit .dotted [] = some inner)
    (kind : TableKind) :
    ∃ es', within true edit [key] kind es = some es' ∧
      es'.get? = Function.update es.get? key.name (some (.table key.span .dotted inner)) := by
  refine ⟨es.insert (key, .table key.span .dotted inner), ?_, Entries.get?_insert h⟩
  simp [within, Entries.get?_eq_none.mp h, hedit]

/-- An edit of a table that is there, and is not an inline table. A dotted key reaches into a
table that dotted keys made. -/
lemma within_table (dotted : Bool) (h : es.get? key.name = some (.table span kind inner))
    (hkind : kind = if dotted then .dotted else .header) (hedit : edit kind inner = some inner')
    (kind' : TableKind) :
    ∃ es', within dotted edit [key] kind' es = some es' ∧
      es'.get? = Function.update es.get? key.name (some (.table span kind inner')) := by
  obtain ⟨old, hold, hname⟩ := Entries.find?_of_get? h
  refine ⟨es.replace key.name (old, .table span kind inner'), ?_, ?_⟩
  · subst hkind
    cases dotted <;> simp_all [within]
  · rw [Entries.get?_replace hname, h]
    rfl

end Edit

end PppoeSetup.Toml
