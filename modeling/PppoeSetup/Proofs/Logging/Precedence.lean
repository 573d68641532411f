import PppoeSetup.Proofs.Logging.Listed

/-!
# Precedence

What a session prints is decided by the environment and by the first configuration alone: which
events by the former, or by the configured level where the environment has no directives, and in
which layout by the latter. Calls after the first one do not matter.
-/

namespace PppoeSetup.Logging

open Text

/-! ### The events that pass -/

namespace Threshold

variable {s t : Threshold}

lemma number_le (t : Threshold) : t.number ≤ 5 := by
  rcases t with _ | (_ | _ | _ | _ | _) <;> decide

lemma le_number_max : s.number ≤ (s.max t).number ∧ t.number ≤ (s.max t).number := by
  unfold max
  split <;> omega

/-- The most generous of several thresholds is at least as generous as each. -/
lemma number_le_foldl_max {ts : List Threshold} (h : t = s ∨ t ∈ ts) :
    t.number ≤ (ts.foldl max s).number := by
  induction ts generalizing s t with
  | nil =>
    obtain rfl | ⟨⟨⟩⟩ := h
    exact le_rfl
  | cons u ts ih =>
    obtain ⟨hs, hu⟩ := le_number_max (s := s) (t := u)
    have hrest : (s.max u).number ≤ ((u :: ts).foldl max s).number := ih (.inl rfl)
    obtain rfl | hmem := h
    · exact hs.trans hrest
    · obtain rfl | hmem := List.mem_cons.mp hmem
      · exact hu.trans hrest
      · exact ih (.inr hmem)

end Threshold

namespace Filter

variable {f : Filter}

/-- The scope that the events of the probe happen in, if it is known. -/
def probeScope? (f : Filter) : Option Scope :=
  if f.admitsSpan probeScope.origin then some probeScope else none

lemma reach_le (f : Filter) (inside : Option Scope) : f.reach inside ≤ 5 := by
  refine max_le (Threshold.number_le _) ?_
  cases inside with
  | none => exact Nat.zero_le 5
  | some scope => exact Threshold.number_le _

end Filter

/-- The lines of a layout for the first `n` events of the probe inside a scope. -/
def printed (format : LogFormat) (inside : Option Scope) (n : Nat) : List Line :=
  let s : Subscriber := ⟨⟨[]⟩, format⟩
  (probe.take n).map (s.line inside) ++ inside.toList.flatMap s.closing

namespace Subscriber

variable {s : Subscriber} {inside : Option Scope} {e : Sample}

/-- The probe has the severities in order, so that what passes are its first events. -/
lemma filter_probe {n : Nat} (hn : n ≤ 5) :
    probe.filter (fun e => e.severity.number ≤ n) = probe.take n := by
  interval_cases n <;> rfl

lemma lines_probe : s.lines probeScope probe =
    printed s.format s.filter.probeScope? (s.filter.reach s.filter.probeScope?) := by
  have hadmits : s.admits s.filter.probeScope? = fun e : Sample =>
      decide (e.severity.number ≤ s.filter.reach s.filter.probeScope?) := by
    funext e
    rw [Bool.eq_iff_iff, admits_iff, decide_eq_true_iff]
  show (probe.filter (s.admits s.filter.probeScope?)).map (s.line s.filter.probeScope?) ++
    s.filter.probeScope?.toList.flatMap s.closing = _
  rw [hadmits, filter_probe (Filter.reach_le ..)]
  rfl

/-! ### Further calls -/

variable {environment : Option String} {config : Option LogConfig} {f : Filter}

lemma foldl_install?_of_some (further : List (Option LogConfig)) :
    further.foldl (install? · environment) (some s) = some s := by
  induction further with
  | nil => rfl
  | cons config further ih => exact ih

/-- If the program ends over the environment once, it always does. -/
lemma foldl_install?_of_torn (h : ∀ config, chooseFilter? environment config = none)
    (further : List (Option LogConfig)) :
    further.foldl (install? · environment) none = none := by
  induction further with
  | nil => rfl
  | cons config further ih =>
    rw [List.foldl_cons, install?, h config]
    exact ih

lemma chooseFilter?_eq_none (h : chooseFilter? environment config = none)
    (other : Option LogConfig) : chooseFilter? environment other = none := by
  cases environment with
  | none => cases config <;> cases h
  | some text => exact h

/-- Filters come of the environment, or else of the configured level. -/
lemma chooseFilter?_congr {other : Option LogConfig}
    (h : environment = none → other.map (·.level) = config.map (·.level)) :
    chooseFilter? environment other = chooseFilter? environment config := by
  cases environment with
  | some text => rfl
  | none =>
    have hlevel := h rfl
    cases other <;> cases config <;> simp_all [chooseFilter?]

end Subscriber

/-- What a session prints is what the first subscriber that is asked for prints. -/
lemma session_eq (environment : Option String) (first : Option LogConfig)
    (further : List (Option LogConfig)) :
    session environment first further =
      match Subscriber.chooseFilter? environment first with
      | some f =>
        printed ((first.map (·.format)).getD .pretty) f.probeScope? (f.reach f.probeScope?)
      | none => [] := by
  unfold session
  cases h : Subscriber.chooseFilter? environment first with
  | some f =>
    simp only [Subscriber.install?, h, Option.map_some, Subscriber.foldl_install?_of_some]
    exact Subscriber.lines_probe
  | none =>
    simp only [Subscriber.install?, h, Option.map_none,
      Subscriber.foldl_install?_of_torn (Subscriber.chooseFilter?_eq_none h)]

/-! ### Directives without spans and fields -/

namespace Directive

variable {d e : Directive} {ds : List Directive} {o : Origin} {best : Option Directive}
  {text : List Char} {start : Nat}

lemma not_isDynamic_iff : ¬ d.isDynamic ↔ d.span = none ∧ d.field = none := by
  simp [isDynamic]

lemma judges_eq (h : ¬ d.isDynamic) : d.judges o = d.hasTarget o.target := by
  obtain ⟨hspan, hfield⟩ := not_isDynamic_iff.mp h
  simp [judges, isStatic, hasValue, missesField, hspan, hfield]

lemma refines_iff (hd : ¬ d.isDynamic) (he : ¬ e.isDynamic) :
    d.refines e ↔ e.targetSize ≤ d.targetSize := by
  obtain ⟨-, hd⟩ := not_isDynamic_iff.mp hd
  obtain ⟨-, he⟩ := not_isDynamic_iff.mp he
  simp only [refines, hd, he]
  split
  · exact decide_eq_true_iff
  · simp_all

/-- The directive that decides for a target: the last one of those that give the longest text
which the target starts with. A directive for all targets gives less than any text. -/
inductive Decides (ds : List Directive) (target : String) : Option Directive → Prop
  | unmatched (h : ∀ d ∈ ds, ¬ d.hasTarget target) : Decides ds target none
  | matched {before after : List Directive} {d : Directive} (hsplit : ds = before ++ d :: after)
    (hd : d.hasTarget target)
    (hbefore : ∀ e ∈ before, e.hasTarget target → e.targetSize ≤ d.targetSize)
    (hafter : ∀ e ∈ after, e.hasTarget target → e.targetSize < d.targetSize) :
    Decides ds target (some d)

/-- At most one directive decides. -/
lemma Decides.unique {target : String} {other : Option Directive} (h : Decides ds target best)
    (h' : Decides ds target other) : best = other := by
  cases h with
  | unmatched hnone =>
    cases h' with
    | unmatched => rfl
    | matched hsplit hd => exact absurd hd (hnone _ (by simp [hsplit]))
  | @matched before after d hsplit hd hbefore hafter =>
    cases h' with
    | unmatched hnone => exact absurd hd (hnone _ (by simp [hsplit]))
    | @matched before' after' d' hsplit' hd' hbefore' hafter' =>
      -- were the two apart, the earlier one would give both a longer and no longer text
      obtain ⟨gap, rfl, hgap⟩ | ⟨gap, rfl, hgap⟩ :=
        List.append_eq_append_iff.mp (hsplit.symm.trans hsplit')
      · cases gap with
        | nil =>
          cases hgap
          rfl
        | cons x gap =>
          cases hgap
          have hle := hbefore' d (by simp) hd
          have hlt := hafter d' (by simp) hd'
          omega
      · cases gap with
        | nil =>
          cases hgap
          rfl
        | cons x gap =>
          cases hgap
          have hle := hbefore d' (by simp) hd'
          have hlt := hafter' d (by simp) hd
          omega

/-- One more directive decides if no longer text has been given before it. -/
lemma Decides.choose (h : Decides ds o.target best) (hds : ∀ e ∈ ds, ¬ e.isDynamic)
    (hd : ¬ d.isDynamic) : Decides (ds ++ [d]) o.target (Filter.choose o best d) := by
  unfold Filter.choose
  rw [judges_eq hd]
  -- the new one wins a tie, since it comes later; what lost before it still loses
  cases h with
  | unmatched hnone =>
    by_cases ht : d.hasTarget o.target
    · rw [ht]
      exact .matched rfl ht (fun e he hte => absurd hte (hnone e he)) nofun
    · rw [if_neg (by simp [ht])]
      refine .unmatched fun e he => ?_
      obtain he | he := List.mem_append.mp he
      · exact hnone e he
      · rwa [List.mem_singleton.mp he]
  | @matched before after e hsplit he hbefore hafter =>
    subst hsplit
    have hrefines : d.refines e ↔ e.targetSize ≤ d.targetSize := refines_iff hd (hds e (by simp))
    by_cases ht : d.hasTarget o.target ∧ e.targetSize ≤ d.targetSize
    · obtain ⟨ht, hle⟩ := ht
      rw [if_pos (by simp [ht, hrefines.mpr hle])]
      refine .matched rfl ht (fun x hx htx => ?_) nofun
      obtain hx | hx := List.mem_append.mp hx
      · exact (hbefore x hx htx).trans hle
      · obtain rfl | hx := List.mem_cons.mp hx
        · exact hle
        · exact (hafter x hx htx).le.trans hle
    · rw [if_neg (by simpa [hrefines] using ht)]
      refine .matched (List.append_assoc ..) he hbefore fun x hx htx => ?_
      obtain hx | hx := List.mem_append.mp hx
      · exact hafter x hx htx
      · rw [List.mem_singleton.mp hx] at htx ⊢
        exact not_le.mp fun hle => ht ⟨htx, hle⟩

lemma decides_foldl (o : Origin) (h : ∀ d ∈ ds, ¬ d.isDynamic) :
    Decides ds o.target (ds.foldl (Filter.choose o) none) := by
  induction ds using List.reverseRecOn with
  | nil => exact .unmatched nofun
  | append_singleton ds d ih =>
    have hds : ∀ e ∈ ds, ¬ e.isDynamic := fun e he => h e (List.mem_append_left _ he)
    rw [List.foldl_concat]
    exact (ih hds).choose hds (h d (by simp))

lemma eq_ok_of_bind {α β : Type} {x : Except Refusal α} {f : α → Except Refusal β} {b : β}
    (h : x >>= f = .ok b) : ∃ a, x = .ok a ∧ f a = .ok b := by
  cases x with
  | error refusal => cases h
  | ok a => exact ⟨a, rfl, h⟩

/-- What comes after the longest stretch of a kind is of another kind. -/
lemma not_of_drop_takeWhile {p : Char → Bool} {cs rest : List Char} {c : Char}
    (h : cs.drop (cs.takeWhile p).length = c :: rest) : ¬ p c := by
  have hdrop : cs.drop (cs.takeWhile p).length = cs.dropWhile p := by
    conv_lhs => arg 2; rw [← List.takeWhile_append_dropWhile (p := p) (l := cs)]
    exact List.drop_left
  have hhead := List.head?_dropWhile_not p cs
  rw [← hdrop, h] at hhead
  replace hhead : p c = false := hhead
  simp [hhead]

/-- A level leaves the other parts of a directive as they are. -/
lemma not_isDynamic_of_withLevel (h : d.withLevel text start = .ok e) (hd : ¬ d.isDynamic) :
    ¬ e.isDynamic := by
  obtain ⟨level, -, h⟩ := eq_ok_of_bind h
  split at h
  · cases h
    exact hd
  · split at h <;> cases h
    exact hd

/-- Only brackets name spans and fields. -/
lemma not_isDynamic_of_parse (h : parse text = .ok d) (htext : '[' ∉ text) : ¬ d.isDynamic := by
  have htrim : '[' ∉ trim text := by
    obtain ⟨before, after, heq, -⟩ := exists_trim text
    rw [heq, List.mem_append, List.mem_append] at htext
    tauto
  unfold parse at h
  split at h
  next => cases h
  next rest heq => simp [heq] at htrim
  next c cs _ heq =>
    rw [heq] at htrim
    split at h
    · dsimp only at h
      split at h
      next =>
        cases h
        unfold ofWord
        split <;> simp [isDynamic]
      next =>
        obtain ⟨name, -, h⟩ := eq_ok_of_bind h
        exact not_isDynamic_of_withLevel h (by simp [isDynamic])
      -- what ends the target is an equals sign or a bracket, and there is none
      next mark rest hmark hrest =>
        have hstop : mark ≠ '=' → mark = '[' := by simpa using not_of_drop_takeWhile hrest
        obtain rfl := hstop hmark
        exact absurd (List.mem_of_mem_drop (hrest ▸ List.mem_cons_self)) htrim
    · cases h

end Directive

namespace Filter

variable {text : String} {f : Filter}

lemma not_isDynamic_of_directivesOf? {texts : List (List Char)} {ds : List Directive}
    (h : directivesOf? texts = some ds) (htexts : ∀ text ∈ texts, '[' ∉ text) :
    ∀ d ∈ ds, ¬ d.isDynamic := by
  induction texts generalizing ds with
  | nil =>
    cases h
    nofun
  | cons text texts ih =>
    obtain ⟨htext, htexts⟩ := List.forall_mem_cons.mp htexts
    unfold directivesOf? at h
    split at h
    next d hparse =>
      obtain ⟨ds, hds, rfl⟩ := Option.map_eq_some_iff.mp h
      exact List.forall_mem_cons.mpr ⟨Directive.not_isDynamic_of_parse hparse htext, ih hds htexts⟩
    next => exact ih h htexts
    next => cases h

lemma mem_of_mem_pieces {sep c : Char} {cs p : List Char} (hp : p ∈ pieces sep cs) (hc : c ∈ p) :
    c ∈ cs := by
  induction cs generalizing p with
  | nil =>
    cases List.mem_singleton.mp hp
    cases hc
  | cons d cs ih =>
    simp only [pieces] at hp
    split at hp
    · obtain rfl | hp := List.mem_cons.mp hp
      · cases hc
      · exact List.mem_cons_of_mem _ (ih hp hc)
    · split at hp
      next hnil => exact absurd hnil (pieces_ne_nil sep cs)
      next q ps hcons =>
        rw [hcons] at ih
        -- the character that is not a separator goes to the first piece of the rest
        obtain rfl | hp := List.mem_cons.mp hp
        · obtain rfl | hc := List.mem_cons.mp hc
          · exact List.mem_cons_self
          · exact List.mem_cons_of_mem _ (ih List.mem_cons_self hc)
        · exact List.mem_cons_of_mem _ (ih (List.mem_cons_of_mem _ hp) hc)

lemma not_isDynamic_of_ofText? (h : ofText? text = some f) (htext : '[' ∉ text.toList) :
    ∀ d ∈ f.directives, ¬ d.isDynamic := by
  obtain ⟨ds, hds, h⟩ := Option.bind_eq_some_iff.mp h
  cases h
  split
  · exact plain_upTo .error
  · refine not_isDynamic_of_directivesOf? hds fun piece hpiece hmem => htext ?_
    exact mem_of_mem_pieces (List.mem_filter.mp hpiece).1 hmem

/-! ### Filters without spans and fields -/

variable {inside : Option Scope} {o o' : Origin} {d : Directive}

lemma number_le_ceiling (h : d ∈ f.directives) : d.threshold.number ≤ f.ceiling.number := by
  unfold ceiling
  split
  · exact Threshold.number_le _
  · exact Threshold.number_le_foldl_max (.inr (List.mem_map_of_mem h))

lemma threshold_congr_of_plain (h : ∀ d ∈ f.directives, ¬ d.isDynamic)
    (ho : o.target = o'.target) : f.threshold o = f.threshold o' := by
  have hchoose : ∀ best, ∀ d ∈ f.directives, choose o best d = choose o' best d := by
    intro best d hd
    rw [choose, choose, Directive.judges_eq (h d hd), Directive.judges_eq (h d hd), ho]
  rw [threshold, threshold, List.foldl_ext _ _ _ hchoose]

lemma exists_decides_of_plain (h : ∀ d ∈ f.directives, ¬ d.isDynamic) (inside : Option Scope) :
    ∃ best, Directive.Decides f.directives target best ∧
      f.reach inside = Threshold.number (best.bind (·.threshold)) :=
  ⟨_, Directive.decides_foldl sampleOrigin h, reach_of_plain h inside⟩

/-- The scope of the probe is known if and only if some of its events pass. -/
lemma probeScope?_of_plain (h : ∀ d ∈ f.directives, ¬ d.isDynamic) (inside : Option Scope) :
    f.probeScope? = if f.reach inside = 0 then none else some probeScope := by
  obtain ⟨best, hbest, hreach⟩ := exists_decides_of_plain h inside
  have hthreshold : (f.threshold probeScope.origin).number = f.reach inside := by
    rw [reach_of_plain h]
    exact congrArg Threshold.number (threshold_congr_of_plain h rfl)
  -- the scope has to pass the ceiling as well, but no directive is above it
  have hceiling : f.reach inside ≤ f.ceiling.number := by
    rw [hreach]
    cases hbest with
    | unmatched => exact Nat.zero_le _
    | matched hsplit => exact number_le_ceiling (by simp [hsplit])
  have hadmits : f.admitsSpan probeScope.origin ↔ f.reach inside ≠ 0 := by
    rw [admitsSpan, watchers_of_plain h, List.any_nil, Bool.false_or, Bool.and_eq_true,
      Threshold.admits_iff, Threshold.admits_iff, hthreshold]
    show 1 ≤ _ ∧ 1 ≤ _ ↔ _
    omega
  rw [probeScope?]
  split_ifs with hknown hzero hzero
  · exact absurd hzero (hadmits.mp hknown)
  · rfl
  · rfl
  · exact absurd (hadmits.mpr hzero) hknown

lemma probeScope?_upTo (s : Severity) : (upTo s).probeScope? = some probeScope := by
  rw [probeScope?_of_plain (plain_upTo s) none, reach_upTo, if_neg s.number_pos.ne']

end Filter

/-- For every environment and every first configuration there are a number of events and a scope
such that

* so many events of the probe are printed, from error on, in that scope and in the layout of the
  first configuration, or in the pretty one if there is none;
* the same holds for every other first configuration, with its layout, if the environment has
  directives, and else if it has the same level; calls after the first one never matter;
* without directives in the environment the number is that of the configured level, where an unknown
  one counts as info, and that of info if there is no configuration;
* if the environment asks for no spans, the directive that gives the longest text which the target
  starts with sets the number, and it is zero if there is none. -/
theorem session_precedence (environment : Option String) (first : Option LogConfig) :
    ∃ n inside, n ≤ 5 ∧
      (∀ (other : Option LogConfig) further,
        (environment = none → other.map (·.level) = first.map (·.level)) →
        session environment other further =
          printed ((other.map (·.format)).getD .pretty) inside n) ∧
      (environment = none → inside = some probeScope ∧
        n = (first.elim Severity.info fun c => .ofLevel c.level).number) ∧
      ∀ text f, environment = some text → Filter.ofText? text = some f → '[' ∉ text.toList →
        ∃ best, Directive.Decides f.directives target best ∧
          n = Threshold.number (best.bind (·.threshold)) ∧
          inside = if n = 0 then none else some probeScope := by
  -- without a filter, because the directives cannot be read, nothing is printed
  cases h : Subscriber.chooseFilter? environment first with
  | none =>
    refine ⟨0, none, Nat.zero_le 5, fun other further hother => ?_, ?_, ?_⟩
    · rw [session_eq, Subscriber.chooseFilter?_congr hother, h]
      cases (other.map (·.format)).getD .pretty <;> rfl
    · rintro rfl
      cases first <;> cases h
    · rintro text f rfl hf
      cases h.symm.trans hf
  | some f =>
    refine ⟨f.reach f.probeScope?, f.probeScope?, Filter.reach_le ..,
      fun other further hother => ?_, ?_, ?_⟩
    · rw [session_eq, Subscriber.chooseFilter?_congr hother, h]
    · rintro rfl
      obtain rfl : f = .upTo (first.elim Severity.info fun c => .ofLevel c.level) := by
        cases first <;> exact (Option.some_injective _ h).symm
      exact ⟨Filter.probeScope?_upTo _, Filter.reach_upTo ..⟩
    · rintro text f' rfl hf htext
      cases h.symm.trans hf
      have hplain := Filter.not_isDynamic_of_ofText? hf htext
      obtain ⟨best, hbest, hreach⟩ := Filter.exists_decides_of_plain hplain f.probeScope?
      exact ⟨best, hbest, hreach, Filter.probeScope?_of_plain hplain _⟩

/-- A level for all targets, a target with a level, and a target. -/
def listedDirectives : List Directive :=
  [{ threshold := some .debug }, { target := "pppoe".toList, threshold := some .warn },
    { target := "tokio".toList }]

/-- Their texts, and an empty one. -/
def listedTexts : List (List Char) :=
  ["debug".toList, "pppoe".toList ++ '=' :: "Warn".toList, [], "tokio".toList]

lemma listed_listedTexts : Filter.Listed listedDirectives listedTexts := by
  have htarget {cs : List Char} (h : cs = "pppoe".toList ∨ cs = "tokio".toList) :
      Directive.IsTarget cs := by
    rcases h with rfl | rfl
    all_goals exact Directive.isTarget_of_all (by decide +kernel) (by decide)
  refine .written (.level ?_ (by decide)) (.written (.targetLevel (htarget (.inl rfl)) ?_)
    (.empty (.written (.target (htarget (.inr rfl)) ?_) .nil)))
  · exact Threshold.ofChars?_eq_some_iff.mp (by decide)
  · exact Threshold.ofChars?_eq_some_iff.mp (by decide)
  · exact Threshold.ofChars?_eq_none_iff.mp (by decide)

/-- The longest text that the target starts with decides, wherever it stands in the list; without
a list the configured level does. -/
theorem session_precedence_listed :
    session (some "debug,pppoe=Warn,,tokio") (some ⟨"error", .json⟩) [none] =
        printed .json (some probeScope) 2 ∧
      session none (some ⟨"4", .compact⟩) [] = printed .compact (some probeScope) 4 := by
  constructor
  · have htext : "debug,pppoe=Warn,,tokio" = String.ofList ([','].intercalate listedTexts) := by
      decide +kernel
    have hsplit : listedDirectives = [{ threshold := some .debug }] ++
        { target := "pppoe".toList, threshold := some .warn } :: [{ target := "tokio".toList }] :=
      rfl
    have hdecides : Directive.Decides listedDirectives target _ :=
      .matched hsplit (by decide) (by decide) (by decide)
    obtain ⟨n, inside, -, hsession, -, hdirectives⟩ :=
      session_precedence (some "debug,pppoe=Warn,,tokio") (some ⟨"error", .json⟩)
    obtain ⟨best, hbest, rfl, rfl⟩ := hdirectives _ _ (congrArg some htext)
      (Filter.ofText?_of_listed listed_listedTexts) listed_listedTexts.bracket_notMem
    cases hbest.unique hdecides
    exact hsession (some ⟨"error", .json⟩) [none] nofun
  · obtain ⟨n, inside, -, hsession, hlevel, -⟩ := session_precedence none (some ⟨"4", .compact⟩)
    obtain ⟨rfl, rfl⟩ := hlevel rfl
    exact hsession (some ⟨"4", .compact⟩) [] fun _ => rfl

end PppoeSetup.Logging
