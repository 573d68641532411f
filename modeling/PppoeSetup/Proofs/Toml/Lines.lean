import PppoeSetup.Proofs.Toml.Words

/-!
# Lines of TOML

How keys, lines, inline tables and whole documents are written. They are read as what they say if
the values in them are.
-/

namespace PppoeSetup.Toml

variable {s rest : List Char}

/-! ### Keys and lines -/

/-- A name that may stand without quotes as a key. -/
def IsBare (name : String) : Prop := name.toList ≠ [] ∧ name.toList.all isBareKeyChar

instance : DecidablePred IsBare := fun _ => inferInstanceAs (Decidable (_ ∧ _))

/-- A key of one part or of two, an equals sign, and a value that is written as `V` says. -/
inductive LineAt (V : List Char → List Char → Prop) : List String → List Char → List Char → Prop
  | plain {name : String} {k e v rest : List Char} :
    Blanks k ('=' :: e) → Blanks e v → V v rest → LineAt V [name] (name.toList ++ k) rest
  | dotted {parent name : String} {k e v rest : List Char} :
    Blanks k ('=' :: e) → Blanks e v → V v rest →
    LineAt V [parent, name] (parent.toList ++ '.' :: (name.toList ++ k)) rest

/-- The line gives a value as `P` says to the key of these parts. -/
structure Line.Says (names : List String) (P : Value → Prop) (l : Line) : Prop where
  names : (l.path.parents ++ [l.path.key]).map (·.name) = names
  value : P l.value

section

variable {P : Value → Prop} {l : Line}

lemma Line.Says.plain {name : String} (h : l.Says [name] P) :
    l.path.parents = [] ∧ l.path.key.name = name := by
  have hnames := h.names
  cases hparents : l.path.parents with
  | nil => simpa [hparents] using hnames
  | cons k ks => simp [hparents] at hnames

lemma Line.Says.dotted {parent name : String} (h : l.Says [parent, name] P) :
    ∃ k, l.path.parents = [k] ∧ k.name = parent ∧ l.path.key.name = name := by
  have hnames := h.names
  rcases hparents : l.path.parents with _ | ⟨k, _ | ⟨k', ks⟩⟩
  · simp [hparents] at hnames
  · exact ⟨k, rfl, by simpa [hparents] using hnames⟩
  · simp [hparents] at hnames

end

lemma not_isBareKeyChar_of_mem {c : Char}
    (h : c ∈ [' ', '\t', '\n', '\r', '#', '\uFEFF', '"', '\x27', '.', '=', '[', ']', '\x7d']) :
    isBareKeyChar c = false := by
  have hall : [' ', '\t', '\n', '\r', '#', '\uFEFF', '"', '\x27', '.', '=', '[', ']',
      '\x7d'].all (!isBareKeyChar ·) := by decide
  simpa using List.all_eq_true.mp hall c h

lemma solid_of_isBareKeyChar {c : Char} {r : List Char} (h : isBareKeyChar c) :
    Solid (c :: r) := by
  refine .cons ?_
  intro hmem
  rw [not_isBareKeyChar_of_mem (by simp at hmem ⊢; tauto)] at h
  cases h

lemma IsBare.exists_head {name : String} (h : IsBare name) (k : List Char) :
    ∃ c r, name.toList ++ k = c :: r ∧ isBareKeyChar c := by
  obtain ⟨hne, hall⟩ := h
  obtain ⟨c, cs, hname⟩ := List.exists_cons_of_ne_nil hne
  exact ⟨c, cs ++ k, by simp [hname], List.all_eq_true.mp hall c (by simp [hname])⟩

lemma IsBare.ne_cons {name : String} (h : IsBare name) {c : Char} (hc : isBareKeyChar c = false)
    (k r : List Char) : name.toList ++ k ≠ c :: r := by
  obtain ⟨d, r', heq, hd⟩ := h.exists_head k
  rw [heq]
  rintro ⟨⟩
  rw [hc] at hd
  cases hd

lemma IsBare.solid {name : String} (h : IsBare name) (k : List Char) :
    Solid (name.toList ++ k) := by
  obtain ⟨c, r, heq, hc⟩ := h.exists_head k
  rw [heq]
  exact solid_of_isBareKeyChar hc

/-- A key ends where no further character of it follows. -/
lemma simpleKey_of_isBare {name : String} (h : IsBare name) {c : Char} (k : List Char)
    (hc : isBareKeyChar c = false) :
    ∃ span, simpleKey (name.toList ++ c :: k) = some (⟨name, span⟩, c :: k) := by
  have htake : (name.toList ++ c :: k).takeWhile isBareKeyChar = name.toList := by
    rw [List.takeWhile_append_of_pos (List.all_eq_true.mp h.2)]
    simp [hc]
  have hdrop : (name.toList ++ c :: k).dropWhile isBareKeyChar = c :: k := by
    rw [List.dropWhile_append_of_pos (List.all_eq_true.mp h.2)]
    simp [hc]
  refine ⟨⟨name.toList ++ c :: k, c :: k⟩, ?_⟩
  unfold simpleKey
  split
  next heq => exact absurd heq (h.ne_cons (by decide) _ _)
  next heq => exact absurd heq (h.ne_cons (by decide) _ _)
  · simp [htake, hdrop, h.1]

/-- What follows a key before an equals sign or a bracket. -/
lemma Blanks.exists_cons {c : Char} {k r : List Char} (h : Blanks k (c :: r))
    (hc : isBareKeyChar c = false) : ∃ d k', k = d :: k' ∧ isBareKeyChar d = false := by
  cases h with
  | none => exact ⟨c, r, rfl, hc⟩
  | space => exact ⟨_, _, rfl, by decide⟩
  | tab => exact ⟨_, _, rfl, by decide⟩

lemma many_furtherKey {c : Char} {k r : List Char} (h : Blanks k (c :: r)) (hc : Solid (c :: r))
    (hdot : c ≠ '.') : many furtherKey k = some ([], c :: r) := by
  apply many_of_end
  rw [furtherKey, h.skipBlanks_eq, skipBlanks_of_solid hc]
  split
  next heq =>
    cases heq
    exact absurd rfl hdot
  · rfl

lemma keyPath_plain {name : String} (hname : IsBare name) {c : Char} {k r : List Char}
    (h : Blanks k (c :: r)) (hc : isBareKeyChar c = false) (hsolid : Solid (c :: r))
    (hdot : c ≠ '.') :
    ∃ span, keyPath (name.toList ++ k) = some (⟨[], ⟨name, span⟩⟩, c :: r) := by
  obtain ⟨d, k', rfl, hd⟩ := h.exists_cons hc
  obtain ⟨span, hkey⟩ := simpleKey_of_isBare hname k' hd
  refine ⟨span, ?_⟩
  simp [keyPath, hkey, many_furtherKey h hsolid hdot, KeyPath.ofKeys, maxDepth]

lemma keyPath_dotted {parent name : String} (hparent : IsBare parent) (hname : IsBare name)
    {c : Char} {k r : List Char} (h : Blanks k (c :: r)) (hc : isBareKeyChar c = false)
    (hsolid : Solid (c :: r)) (hdot : c ≠ '.') :
    ∃ span span', keyPath (parent.toList ++ '.' :: (name.toList ++ k)) =
      some (⟨[⟨parent, span⟩], ⟨name, span'⟩⟩, c :: r) := by
  obtain ⟨d, k', rfl, hd⟩ := h.exists_cons hc
  obtain ⟨span, hfirst⟩ := simpleKey_of_isBare hparent (name.toList ++ d :: k') (c := '.') rfl
  obtain ⟨span', hkey⟩ := simpleKey_of_isBare hname k' hd
  have hmore : furtherKey ('.' :: (name.toList ++ d :: k')) =
      some (some ⟨name, span'⟩, d :: k') := by
    rw [furtherKey, skipBlanks_of_solid (.cons (by decide))]
    simp [skipBlanks_of_solid (hname.solid _), hkey]
  have hlt : (d :: k').length < ('.' :: (name.toList ++ d :: k')).length := by
    simp only [List.length_cons, List.length_append]
    omega
  refine ⟨span, span', ?_⟩
  simp [keyPath, hfirst, many_of_item hmore hlt (many_furtherKey h hsolid hdot), KeyPath.ofKeys,
    maxDepth]

section

variable {V : List Char → List Char → Prop} {P : Value → Prop} {names : List String}
  {skip : List Char → Option (List Char)} {value : Reader Value}

lemma LineAt.exists_head (h : LineAt V names s rest) (hnames : ∀ name ∈ names, IsBare name) :
    ∃ c r, s = c :: r ∧ isBareKeyChar c := by
  cases h with
  | plain => exact (hnames _ (by simp)).exists_head _
  | dotted => exact (hnames _ (by simp)).exists_head _

/-- A line is read if its value is. -/
lemma LineAt.reads (hnames : ∀ name ∈ names, IsBare name)
    (hskip : ∀ s rest, Blanks s rest → Solid rest → skip s = some rest)
    (hV : Reads value V P) : Reads (keyValue skip value) (LineAt V names) (Line.Says names P) where
  solid := by
    intro s rest h
    obtain ⟨c, r, rfl, hc⟩ := h.exists_head hnames
    exact solid_of_isBareKeyChar hc
  length := by
    intro s rest h
    cases h with
    | plain hk he hv | dotted hk he hv =>
      have h₁ := hk.length_le
      have h₂ := he.length_le
      have h₃ := hV.length hv
      simp only [List.length_cons, List.length_append] at h₁ ⊢
      omega
  reads := by
    intro s rest h hrest
    have hequals (e : List Char) : Solid ('=' :: e) := .cons (by decide)
    cases h with
    | @plain name _ _ _ _ hk he hv =>
      obtain ⟨v, hvalue, hP⟩ := hV.reads hv hrest
      obtain ⟨span, hpath⟩ := keyPath_plain (hnames name (by simp)) hk (by decide) (hequals _)
        (by decide)
      refine ⟨⟨⟨[], ⟨name, span⟩⟩, v⟩, ?_, rfl, hP⟩
      simp [keyValue, hpath, hskip _ _ (.none _) (hequals _), hskip _ _ he (hV.solid hv), hvalue]
    | @dotted parent name _ _ _ _ hk he hv =>
      obtain ⟨v, hvalue, hP⟩ := hV.reads hv hrest
      obtain ⟨span, span', hpath⟩ := keyPath_dotted (hnames parent (by simp))
        (hnames name (by simp)) hk (by decide) (hequals _) (by decide)
      refine ⟨⟨⟨[⟨parent, span⟩], ⟨name, span'⟩⟩, v⟩, ?_, rfl, hP⟩
      simp [keyValue, hpath, hskip _ _ (.none _) (hequals _), hskip _ _ he (hV.solid hv), hvalue]

end

/-! ### Inline tables -/

/-- The rest of an inline table after its opening brace: the items, each as `W` says, with a comma
after every one of them but possibly the last. -/
inductive ItemsAt {α : Type} (W : α → List Char → List Char → Prop) :
    List α → List Char → List Char → Prop
  | close (rest : List Char) : ItemsAt W [] ('\x7d' :: rest) rest
  | last {a : α} {s u rest : List Char} : W a s u → Blanks u ('\x7d' :: rest) → ItemsAt W [a] s rest
  | more {a : α} {as : List α} {s u v x rest : List Char} :
    W a s u → Blanks u (',' :: v) → Blanks v x → ItemsAt W as x rest → ItemsAt W (a :: as) s rest

/-- What is in braces. -/
inductive InlineAt {α : Type} (W : α → List Char → List Char → Prop) (as : List α) :
    List Char → List Char → Prop
  | braces {s u rest : List Char} :
    Blanks s u → ItemsAt W as u rest → InlineAt W as ('\x7b' :: s) rest

/-- Every item is read as a line, and none is taken for the closing brace. -/
structure ReadsItems {α : Type} (value : Reader Value) (W : α → List Char → List Char → Prop)
    (M : α → Line → Prop) : Prop where
  item (a : α) : Reads (keyValue (skipGap false) value) (W a) (M a)
  head {a : α} {s u : List Char} : W a s u → ∃ c r, s = c :: r ∧ isBareKeyChar c

lemma LineAt.readsItems {α : Type} {V : α → List Char → List Char → Prop} {P : α → Value → Prop}
    {name : α → String} {value : Reader Value} (hname : ∀ a, IsBare (name a))
    (hV : ∀ a, Reads value (V a) (P a)) :
    ReadsItems value (fun a => LineAt (V a) [name a]) (fun a => Line.Says [name a] (P a)) := by
  have hskip (s rest : List Char) (hblanks : Blanks s rest) (hsolid : Solid rest) :
      skipGap false s = some rest := by
    rw [hblanks.gap.skipGap_eq, skipGap_of_solid hsolid]
  refine ⟨fun a => LineAt.reads (by simpa using hname a) hskip (hV a), ?_⟩
  intro a s u h
  exact h.exists_head (by simpa using hname a)

section

variable {α : Type} {W : α → List Char → List Char → Prop} {M : α → Line → Prop}
  {value : Reader Value} {as : List α}

lemma ItemsAt.solid (h : ItemsAt W as s rest) (hW : ReadsItems value W M) : Solid s := by
  cases h with
  | close => exact .cons (by decide)
  | last hw | more hw => exact (hW.item _).solid hw

lemma ItemsAt.length_lt (h : ItemsAt W as s rest) (hW : ReadsItems value W M) :
    rest.length < s.length := by
  induction h with
  | close => exact Nat.lt_succ_self _
  | last hw hblanks =>
    have h₁ := hblanks.length_le
    have h₂ := (hW.item _).length hw
    rw [List.length_cons] at h₁
    omega
  | more hw hcomma hblanks _ ih =>
    have h₁ := hblanks.length_le
    have h₂ := hcomma.length_le
    have h₃ := (hW.item _).length hw
    rw [List.length_cons] at h₂
    omega

/-- One item with what follows it. -/
lemma ReadsItems.tableItem_eq (hW : ReadsItems value W M) {a : α} {s u x : List Char}
    (hw : W a s u) (hu : Stops u) (hafter : afterItem '\x7d' u = some x) :
    ∃ l, tableItem value s = some (some l, x) ∧ M a l := by
  obtain ⟨l, hl, hM⟩ := (hW.item a).reads hw hu
  obtain ⟨c, r, rfl, hc⟩ := hW.head hw
  refine ⟨l, ?_, hM⟩
  unfold tableItem
  split
  next heq =>
    cases heq
    cases hc
  · simp [hl, hafter]

lemma ItemsAt.many_eq (h : ItemsAt W as s rest) (hW : ReadsItems value W M) :
    ∃ ls, many (tableItem value) s = some (ls, rest) ∧ List.Forall₂ M as ls := by
  have hclose (r : List Char) : many (tableItem value) ('\x7d' :: r) = some ([], r) :=
    many_of_end rfl
  -- on the items; reading one takes characters away, so that the reader goes on
  induction h with
  | close => exact ⟨[], hclose _, .nil⟩
  | @last a s u rest hw hblanks =>
    have hbrace : Solid ('\x7d' :: rest) := .cons (by decide)
    have hstops : Stops ('\x7d' :: rest) := .mark (by decide) (by decide) (by decide)
    have hafter : afterItem '\x7d' u = some ('\x7d' :: rest) := by
      rw [afterItem, hblanks.gap.skipGap_eq, skipGap_of_solid hbrace]
      rfl
    obtain ⟨l, hl, hM⟩ := hW.tableItem_eq hw (hblanks.stops hstops) hafter
    have hlt := hblanks.length_le.trans_lt ((hW.item a).length hw)
    exact ⟨[l], many_of_item hl hlt (hclose _), .cons hM .nil⟩
  | @more a as s u v x rest hw hcomma hblanks hrest ih =>
    obtain ⟨ls, hls, hMs⟩ := ih
    have hsolid : Solid (',' :: v) := .cons (by decide)
    have hstops : Stops (',' :: v) := .mark (by decide) (by decide) (by decide)
    have hafter : afterItem '\x7d' u = some x := by
      rw [afterItem, hcomma.gap.skipGap_eq, skipGap_of_solid hsolid]
      simp [hblanks.gap.skipGap_eq, skipGap_of_solid (hrest.solid hW)]
    obtain ⟨l, hl, hM⟩ := hW.tableItem_eq hw (hcomma.stops hstops) hafter
    have hlt : x.length < s.length := by
      have h₁ := hblanks.length_le
      have h₂ := hcomma.length_le
      have h₃ := (hW.item a).length hw
      rw [List.length_cons] at h₂
      omega
    exact ⟨l :: ls, many_of_item hl hlt hls, .cons hM hMs⟩

/-- What is in braces is read as the table that its lines make. -/
lemma InlineAt.reads {depth : Nat} {P : Entries → Prop}
    (hW : ReadsItems (Toml.value depth) W M)
    (hP : ∀ ls, List.Forall₂ M as ls → ∃ es, Entries.ofLines ls = some es ∧ P es) :
    Reads (Toml.value (depth + 1)) (InlineAt W as)
      (fun v => ∃ span es, v = .table span .inlined es ∧ P es) where
  solid := by
    rintro _ _ ⟨-, -⟩
    exact .cons (by decide)
  length := by
    rintro _ _ ⟨hblanks, hitems⟩
    exact ((hitems.length_lt hW).trans_le hblanks.length_le).trans (Nat.lt_succ_self _)
  reads := by
    rintro _ rest (@⟨s, u, _, hblanks, hitems⟩) -
    obtain ⟨ls, hls, hM⟩ := hitems.many_eq hW
    obtain ⟨es, hes, hPes⟩ := hP ls hM
    refine ⟨_, ?_, ⟨'\x7b' :: s, rest⟩, es, rfl, hPes⟩
    simp [Toml.value, hblanks.gap.skipGap_eq, skipGap_of_solid (hitems.solid hW), hls, hes]

end

/-! ### Statements -/

/-- What is written as `W` says is read as a statement, with the rest of its line. -/
structure ReadsStatement (W : List Char → List Char → Prop) (M : Statement → Prop) : Prop where
  solid {s u : List Char} : W s u → Solid s
  length {s u : List Char} : W s u → u.length < s.length
  reads {s u rest : List Char} : W s u → LineEnd u rest →
    ∃ st, statement s = some (st, rest) ∧ M st

/-- What is in brackets, as the header of a table with this name. -/
inductive HeaderAt (name : String) : List Char → List Char → Prop
  | brackets (rest : List Char) : HeaderAt name ('[' :: (name.toList ++ ']' :: rest)) rest

lemma HeaderAt.reads {name : String} (hname : IsBare name) :
    ReadsStatement (HeaderAt name)
      (fun st => ∃ span key, st = .header span ⟨[], key⟩ ∧ key.name = name) where
  solid := by
    rintro _ _ ⟨⟩
    exact .cons (by decide)
  length := by
    rintro _ _ ⟨⟩
    simp only [List.length_cons, List.length_append]
    omega
  reads := by
    rintro _ u rest ⟨⟩ hend
    have hbracket : Solid (']' :: u) := .cons (by decide)
    obtain ⟨span, hpath⟩ := keyPath_plain hname (.none (']' :: u)) (by decide) hbracket (by decide)
    have hheader : headerPath [']'] (name.toList ++ ']' :: u) =
        some (⟨[], ⟨name, span⟩⟩, u) := by
      simp [headerPath, skipBlanks_of_solid (hname.solid _), hpath, skipBlanks_of_solid hbracket]
    refine ⟨_, ?_, ⟨'[' :: (name.toList ++ ']' :: u), u⟩, ⟨name, span⟩, rfl, rfl⟩
    unfold statement
    split
    -- two brackets would open the header of an array; a bare name does not begin with one
    next heq => exact absurd (List.cons.inj heq).2 (hname.ne_cons (by decide) _ _)
    next heq =>
      cases heq
      simp [hheader, hend.endLine_eq]
    next hother => exact absurd rfl (hother _)

/-- A line of a document. -/
lemma LineAt.readsStatement {V : List Char → List Char → Prop} {P : Value → Prop}
    {names : List String} (hnames : ∀ name ∈ names, IsBare name)
    (hV : Reads (value maxDepth) V P) :
    ReadsStatement (LineAt V names) (fun st => ∃ l, st = .line l ∧ l.Says names P) := by
  have hskip (s rest : List Char) (hblanks : Blanks s rest) (hsolid : Solid rest) :
      some (skipBlanks s) = some rest := by
    rw [hblanks.skipBlanks_eq, skipBlanks_of_solid hsolid]
  have hline := LineAt.reads hnames hskip hV
  refine ⟨hline.solid, hline.length, ?_⟩
  intro s u rest h hend
  obtain ⟨l, hl, hP⟩ := hline.reads h hend.stops
  obtain ⟨c, r, rfl, hc⟩ := h.exists_head hnames
  refine ⟨.line l, ?_, l, rfl, hP⟩
  unfold statement
  split
  next heq =>
    cases heq
    cases hc
  next heq =>
    cases heq
    cases hc
  · simp [hl, hend.endLine_eq]

/-! ### Documents -/

/-- A document of statements, of each of which `W` says how it is written. -/
inductive DocumentAt {α : Type} (W : α → List Char → List Char → Prop) : List α → List Char → Prop
  | done {s : List Char} : Gap s [] → DocumentAt W [] s
  | statement {a : α} {as : List α} {s u v x : List Char} :
    Gap s u → W a u v → LineEnd v x → DocumentAt W as x → DocumentAt W (a :: as) s

section

variable {α : Type} {W : α → List Char → List Char → Prop} {M : α → Statement → Prop}
  {as : List α}

lemma nextStatement_of_gap {u : List Char} {st : Statement} (h : Gap s u) (hu : Solid u)
    (hst : statement u = some (st, rest)) : nextStatement s = some (some st, rest) := by
  rw [nextStatement, h.skipGap_eq, skipGap_of_solid hu]
  obtain ⟨-⟩ := hu
  simp [hst]

lemma DocumentAt.many_eq (h : DocumentAt W as s) (hW : ∀ a ∈ as, ReadsStatement (W a) (M a)) :
    ∃ sts, many nextStatement s = some (sts, []) ∧ List.Forall₂ M as sts := by
  induction h with
  | done hgap =>
    refine ⟨[], many_of_end ?_, .nil⟩
    simp [nextStatement, hgap.skipGap_eq, skipGap]
  | statement hgap hw hend _ ih =>
    obtain ⟨ha, has⟩ := List.forall_mem_cons.mp hW
    obtain ⟨sts, hsts, hM⟩ := ih has
    obtain ⟨st, hst, hMst⟩ := ha.reads hw hend
    have hnext := nextStatement_of_gap hgap (ha.solid hw) hst
    have hlt := (hend.length_le.trans_lt (ha.length hw)).trans_le hgap.length_le
    exact ⟨st :: sts, many_of_item hnext hlt hsts, .cons hMst hM⟩

lemma Gap.dropByteOrderMark_eq {u : List Char} (h : Gap s u) (hu : Solid u ∨ u = []) :
    dropByteOrderMark s = s := by
  cases h with
  | none =>
    rcases hu with hu | rfl
    · unfold dropByteOrderMark
      split
      · cases hu with
        | cons hc => exact absurd (by decide) hc
      · rfl
    · rfl
  | space | tab | lineFeed | crlf => rfl

/-- A document is read statement by statement. -/
theorem DocumentAt.statements_eq (h : DocumentAt W as s)
    (hW : ∀ a ∈ as, ReadsStatement (W a) (M a)) :
    ∃ sts, statements s = some sts ∧ List.Forall₂ M as sts := by
  obtain ⟨sts, hsts, hM⟩ := h.many_eq hW
  have hmark : dropByteOrderMark s = s := by
    cases h with
    | done hgap => exact hgap.dropByteOrderMark_eq (.inr rfl)
    | statement hgap hw =>
      exact hgap.dropByteOrderMark_eq (.inl ((hW _ List.mem_cons_self).solid hw))
  exact ⟨sts, by simp [statements, hmark, hsts], hM⟩

end

end PppoeSetup.Toml
