import Parlance.Translator.Basic

/-!
# Contracts of renderings

A small program logic for renderings. A discipline says what holds at every moment, of the registry
and of the stack. A rendering meets a contract on a stack if, begun on that stack under the
discipline, it keeps the discipline at every moment, ends on the same stack, and has an outcome that
satisfies the postcondition, be it a result or an error.

There is one rule for each way to compose renderings:
1. `meets_bind`, `meets_outcome_bind`, `meets_formatterFor`, `meets_look_bind` for the steps;
2. `meets_script` for scripts, by what a script ensures of its outcome when its answers are as
   promised (`Script.Ensures`);
3. `meets_format` for values, by induction on their size;
4. `meets_renderRequest_eq` for requests whose fragments give what pure rules give;
5. `meets_translateWithin_succ` for messages: the only place where the stack grows, and it shrinks
   again before the rendering goes on;
6. `translateTo_of_meets` for translations, which begin on the empty stack.
-/

namespace Parlance

/-! ## Definitions -/

/-- What holds at every moment, of the registry and of the stack. -/
structure Discipline where
  registry : Registry → Prop
  stack : List Frame → Prop

namespace Discipline

/-- A progress satisfies the discipline. -/
def Holds (d : Discipline) (p : Progress) : Prop :=
  d.registry p.registry ∧ d.stack p.stack

/-- Begun on the stack `st` under the discipline, the rendering keeps the discipline at every
moment, ends on the same stack and has an outcome with `post`. -/
def Meets {α : Type} (d : Discipline) (st : List Frame) (m : Run α)
    (post : Except RenderError α → Prop) : Prop :=
  ∀ p, p.stack = st → d.Holds p →
    (∀ q ∈ m.moments p, d.Holds q) ∧ (m.run p).2.stack = st ∧ post (m.run p).1

end Discipline

/-- What a script may ask for and what is promised of the answers: the view it sees, the messages it
may have translated and the values it may have formatted. -/
structure Answers where
  view : View
  asks : Message → Prop
  nested : Message → String → Except RenderError String → Prop
  takes : Value → Prop
  part : Value → String → Options → Except RenderError String → Prop

/-- A script asks only for what it may, and its outcome has `post` whenever the answers are as
promised. -/
def Script.Ensures {bound : Nat} {α : Type} (a : Answers)
    (post : Except RenderError α → Prop) : Script bound α → Prop
  | .done x => post (.ok x)
  | .fail e => post (.error e)
  | .translate r l next => a.asks r ∧ ∀ x, a.nested r l x → (next x).Ensures a post
  | .format v _ l o next => a.takes v ∧ ∀ x, a.part v l o x → (next x).Ensures a post
  | .inspect next => (next a.view).Ensures a post

/-- Either a formatter was made whose script for the value ensures `post`, or making one failed with
`post`. -/
def Formatter.Made (a : Answers) (v : Value) (post : Except RenderError String → Prop) :
    Except RenderError Formatter → Prop
  | .ok formatter => (formatter v).Ensures a post
  | .error e => post (.error e)

/-! ## Outcomes -/

theorem mapError_eq_ok {ε ε' α : Type} {x : Except ε α} {f : ε → ε'} {a : α} :
    x.mapError f = .ok a ↔ x = .ok a := by
  cases x with
  | ok b =>
    exact ⟨fun h => congrArg Except.ok (Except.ok.inj h),
      fun h => congrArg Except.ok (Except.ok.inj h)⟩
  | error e => exact ⟨nofun, nofun⟩

theorem mapError_eq_error {ε ε' α : Type} {x : Except ε α} {f : ε → ε'} {e' : ε'} :
    x.mapError f = .error e' ↔ ∃ e, x = .error e ∧ f e = e' := by
  cases x with
  | ok a => exact ⟨nofun, nofun⟩
  | error e =>
    refine ⟨fun h => ⟨e, rfl, Except.error.inj h⟩, fun ⟨d, hd, hfd⟩ => ?_⟩
    obtain rfl := Except.error.inj hd
    exact congrArg Except.error hfd

/-! ## Moments -/

namespace Run

variable {α β : Type}

theorem moments_bind_of_ok {m : Run α} {k : α → Run β} {p q : Progress} {a : α}
    (h : m.run p = (.ok a, q)) : (m >>= k).moments p = m.moments p ++ (k a).moments q := by
  show (m.bind k).moments p = _
  simp [bind, h]

theorem moments_bind_of_error {m : Run α} {k : α → Run β} {p q : Progress} {e : RenderError}
    (h : m.run p = (.error e, q)) : (m >>= k).moments p = m.moments p := by
  show (m.bind k).moments p = _
  simp [bind, h]

/-- A rendering after which the innermost frame is taken from the stack, whatever the outcome. -/
theorem run_outcome_leave (m : Run α) (p : Progress) :
    (do let x ← m.outcome; leave; ofExcept x : Run α).run p =
      ((m.run p).1, { (m.run p).2 with stack := (m.run p).2.stack.drop 1 }) := by
  rw [run_bind_of_ok (m.run_outcome p)]
  exact run_bind_of_ok (a := ()) rfl

theorem mem_moments_outcome_leave {m : Run α} {p q : Progress}
    (h : q ∈ (do let x ← m.outcome; leave; ofExcept x : Run α).moments p) :
    q ∈ m.moments p ∨ q = { (m.run p).2 with stack := (m.run p).2.stack.drop 1 } := by
  have hend := m.end_mem p
  rw [moments_bind_of_ok (m.run_outcome p)] at h
  rw [moments_bind_of_ok (m := leave) (a := ()) rfl] at h
  rcases List.mem_append.1 h with h | h
  · exact Or.inl h
  · have : q = (m.run p).2 ∨ q = { (m.run p).2 with stack := (m.run p).2.stack.drop 1 } := by
      simpa [leave, ofExcept, step] using h
    rcases this with rfl | rfl
    · exact Or.inl hend
    · exact Or.inr rfl

theorem run_enter_fresh {frame : Frame} {p : Progress} (h : p.stack.any frame.same = false) :
    (enter frame).run p = (.ok (), { p with stack := frame :: p.stack }) := by
  rw [enter, run_step, h]
  rfl

theorem run_enter_again {frame : Frame} {p : Progress} (h : p.stack.any frame.same = true) :
    (enter frame).run p = (.error (.cyclicReference (keysTo frame p.stack)), p) := by
  rw [enter, run_step, h]
  rfl

theorem mem_moments_step {act : Progress → Except RenderError α × Progress} {p q : Progress}
    (h : q ∈ (step act).moments p) : q = p ∨ q = (act p).2 := by
  simpa [step] using h

end Run

/-! ## Steps -/

namespace Discipline

variable {d : Discipline} {st : List Frame} {α β : Type}

theorem meets_ofExcept {x : Except RenderError α} {post : Except RenderError α → Prop}
    (h : post x) : d.Meets st (Run.ofExcept x) post := by
  intro p hp hd
  refine ⟨fun q hq => ?_, hp, h⟩
  rcases Run.mem_moments_step hq with rfl | rfl <;> exact hd

theorem meets_pure {a : α} {post : Except RenderError α → Prop} (h : post (.ok a)) :
    d.Meets st (pure a) post :=
  meets_ofExcept h

theorem meets_fail {e : RenderError} {post : Except RenderError α → Prop} (h : post (.error e)) :
    d.Meets st (Run.fail e) post :=
  meets_ofExcept h

theorem Meets.mono {m : Run α} {post post' : Except RenderError α → Prop}
    (hm : d.Meets st m post) (h : ∀ x, post x → post' x) : d.Meets st m post' := by
  intro p hp hd
  obtain ⟨hmoments, hstack, hpost⟩ := hm p hp hd
  exact ⟨hmoments, hstack, h _ hpost⟩

/-- The continuation starts where the first part ends: on the same stack, under the discipline. -/
theorem meets_bind {m : Run α} {k : α → Run β} {P : Except RenderError α → Prop}
    {post : Except RenderError β → Prop} (hm : d.Meets st m P)
    (hok : ∀ a, P (.ok a) → d.Meets st (k a) post)
    (herror : ∀ e, P (.error e) → post (.error e)) : d.Meets st (m >>= k) post := by
  intro p hp hd
  obtain ⟨hmoments, hstack, hmid⟩ := hm p hp hd
  have hend := hmoments _ (m.end_mem p)
  cases hrun : m.run p with
  | mk x q =>
    rw [hrun] at hstack hmid hend
    cases x with
    | ok a =>
      obtain ⟨hmoments', hstack', hpost⟩ := hok a hmid q hstack hend
      rw [Run.moments_bind_of_ok hrun, Run.run_bind_of_ok hrun]
      refine ⟨fun r hr => ?_, hstack', hpost⟩
      rcases List.mem_append.1 hr with hr | hr
      · exact hmoments r hr
      · exact hmoments' r hr
    | error e =>
      rw [Run.moments_bind_of_error hrun, Run.run_bind_of_error hrun]
      exact ⟨hmoments, hstack, herror e hmid⟩

/-- What comes after an outcome may rely on the contract, whether there was a result or an error. -/
theorem meets_outcome_bind {m : Run α} {k : Except RenderError α → Run β}
    {P : Except RenderError α → Prop} {post : Except RenderError β → Prop}
    (hm : d.Meets st m P) (hk : ∀ x, P x → d.Meets st (k x) post) :
    d.Meets st (m.outcome >>= k) post := by
  have houtcome : d.Meets st m.outcome fun y => ∃ x, y = .ok x ∧ P x := by
    intro p hp hd
    obtain ⟨hmoments, hstack, hmid⟩ := hm p hp hd
    exact ⟨hmoments, hstack, _, rfl, hmid⟩
  refine meets_bind houtcome ?_ ?_
  · rintro x ⟨_, hx, hmid⟩
    cases hx
    exact hk x hmid
  · rintro e ⟨_, he, _⟩
    cases he

theorem meets_look_bind {k : Progress → Run β} {post : Except RenderError β → Prop}
    (hk : ∀ p, p.stack = st → d.Meets st (k p) post) : d.Meets st (Run.look >>= k) post := by
  have hlook : d.Meets st Run.look fun x => ∃ p, x = .ok p ∧ p.stack = st := by
    intro p hp hd
    refine ⟨fun q hq => ?_, hp, p, rfl, hp⟩
    rcases Run.mem_moments_step hq with rfl | rfl <;> exact hd
  refine meets_bind hlook ?_ ?_
  · rintro p ⟨_, hx, hp⟩
    cases hx
    exact hk p hp
  · rintro e ⟨_, he, _⟩
    cases he

/-- Where two parts give what pure rules give, so do both together. -/
theorem meets_bind_eq {x : Except RenderError α} {f : α → Except RenderError β} {m : Run α}
    {k : α → Run β} (hm : d.Meets st m (· = x)) (hk : ∀ a, d.Meets st (k a) (· = f a)) :
    d.Meets st (m >>= k) (· = x >>= f) := by
  refine meets_bind hm ?_ ?_
  · rintro a rfl
    exact hk a
  · rintro e rfl
    rfl

theorem meets_formatterFor {v : Value} {locale : String} {options : Options}
    {post : Except RenderError Formatter → Prop}
    (h : ∀ r, d.registry r → d.registry (r.formatterFor v locale options).2 ∧
      post (r.formatterFor v locale options).1) :
    d.Meets st (Run.formatterFor v locale options) post := by
  intro p hp hd
  obtain ⟨hregistry, hpost⟩ := h p.registry hd.1
  refine ⟨fun q hq => ?_, hp, hpost⟩
  rcases Run.mem_moments_step hq with rfl | rfl
  · exact hd
  · exact ⟨hregistry, hd.2⟩

/-! ## Scripts and values -/

/-- A script meets what it ensures, if its answers come from renderings that meet their promises. -/
theorem meets_script {bound : Nat} {a : Answers} {post : Except RenderError α → Prop}
    {see : Progress → View} {nested : Message → String → Run String}
    {part : (v : Value) → v.size < bound → String → Options → Run String}
    (hsee : ∀ p, p.stack = st → see p = a.view)
    (hnested : ∀ r l, a.asks r → d.Meets st (nested r l) (a.nested r l))
    (hpart : ∀ v h l o, a.takes v → d.Meets st (part v h l o) (a.part v l o))
    (script : Script bound α) (h : script.Ensures a post) :
    d.Meets st (script.run see nested part) post := by
  induction script with
  | done x => exact meets_pure h
  | fail e => exact meets_fail h
  | translate r l next ih =>
    exact meets_outcome_bind (hnested r l h.1) fun x hx => ih x (h.2 x hx)
  | format v hv l o next ih =>
    exact meets_outcome_bind (hpart v hv l o h.1) fun x hx => ih x (h.2 x hx)
  | inspect next ih =>
    refine meets_look_bind fun p hp => ?_
    rw [hsee p hp]
    exact ih a.view h

/-- Whatever a script asks for, it ensures what it ensured, of a weaker postcondition. -/
theorem ensures_mono {bound : Nat} {a : Answers} {post post' : Except RenderError α → Prop}
    (hpost : ∀ x, post x → post' x) (script : Script bound α) (h : script.Ensures a post) :
    script.Ensures a post' := by
  induction script with
  | done x => exact hpost _ h
  | fail e => exact hpost _ h
  | translate r l next ih => exact ⟨h.1, fun x hx => ih x (h.2 x hx)⟩
  | format v hv l o next ih => exact ⟨h.1, fun x hx => ih x (h.2 x hx)⟩
  | inspect next ih => exact ih a.view h

/-- A composed script ensures what its second part ensures of every result of the first. -/
theorem ensures_bind {bound : Nat} {a : Answers} {P : Except RenderError α → Prop}
    {post : Except RenderError β → Prop} {k : α → Script bound β} (script : Script bound α)
    (h : script.Ensures a P) (hok : ∀ x, P (.ok x) → (k x).Ensures a post)
    (herror : ∀ e, P (.error e) → post (.error e)) : (script >>= k).Ensures a post := by
  show (script.bind k).Ensures a post
  induction script with
  | done x => exact hok x h
  | fail e => exact herror e h
  | translate r l next ih => exact ⟨h.1, fun x hx => ih x (h.2 x hx)⟩
  | format v hv l o next ih => exact ⟨h.1, fun x hx => ih x (h.2 x hx)⟩
  | inspect next ih => exact ih a.view h

/-- A script that may ask for anything ensures what holds of every outcome. -/
theorem ensures_of_forall {bound : Nat} {a : Answers} {post : Except RenderError α → Prop}
    (hasks : ∀ r, a.asks r) (htakes : ∀ v, a.takes v) (hpost : ∀ x, post x)
    (script : Script bound α) : script.Ensures a post := by
  induction script with
  | done x => exact hpost _
  | fail e => exact hpost _
  | translate r l next ih => exact ⟨hasks r, fun x _ => ih x⟩
  | format v hv l o next ih => exact ⟨htakes v, fun x _ => ih x⟩
  | inspect next ih => exact ih a.view

theorem made_of_forall {a : Answers} {v : Value} {post : Except RenderError String → Prop}
    (hasks : ∀ r, a.asks r) (htakes : ∀ w, a.takes w) (hpost : ∀ x, post x)
    (made : Except RenderError Formatter) : Formatter.Made a v post made := by
  cases made with
  | ok formatter => exact ensures_of_forall hasks htakes hpost _
  | error e => exact hpost _

/-- The view of a script depends on the stack only. -/
theorem view_of_stack (s : Setting) {p : Progress} (hp : p.stack = st) :
    s.view p = ⟨s.catalog, s.defaultLocale, st.reverse⟩ := by
  rw [Setting.view, hp]

/-- A value meets its promise if, for every value that may be formatted, the registry keeps the
discipline and gives a formatter whose script ensures the promise. -/
theorem meets_format {s : Setting} {a : Answers} {nested : Message → String → Run String}
    (hview : a.view = ⟨s.catalog, s.defaultLocale, st.reverse⟩)
    (hnested : ∀ r l, a.asks r → d.Meets st (nested r l) (a.nested r l))
    (hformatter : ∀ v l o r, a.takes v → d.registry r →
      d.registry (r.formatterFor v l o).2 ∧
        Formatter.Made a v (a.part v l o) (r.formatterFor v l o).1)
    (v : Value) (l : String) (o : Options) (hv : a.takes v) :
    d.Meets st (s.format nested v l o) (a.part v l o) := by
  -- A script can only hand smaller values on.
  induction hn : v.size using Nat.strongRecOn generalizing v l o with
  | ind n ih =>
    rw [Setting.format]
    refine meets_bind (P := Formatter.Made a v (a.part v l o))
      (meets_formatterFor fun r hr => hformatter v l o r hv hr) ?_ fun e he => he
    intro formatter hensures
    refine meets_script (fun p hp => (view_of_stack s hp).trans hview.symm) hnested ?_ _ hensures
    intro w hw l' o' htakes
    exact ih w.size (hn ▸ hw) w l' o' htakes rfl

/-! ## Requests -/

/-- A request gives its fragments, from left to right, if every fragment gives what a pure rule
gives. -/
theorem meets_renderRequest_eq {s : Setting} {nested : Message → String → Run String} {r : Message}
    {l : String} {text : Fragment → Except RenderError String}
    (h : ∀ fragment, d.Meets st (s.renderFragment nested r l fragment) (· = text fragment)) :
    d.Meets st (s.renderRequest nested r l) (· = do
      let compiled ← s.catalog.lookup r l
      let texts ← compiled.fragments.mapM text
      return String.join texts) := by
  have hfragments : ∀ fragments, d.Meets st (s.renderFragments nested r l fragments) (· = do
      let texts ← fragments.mapM text
      return String.join texts) := by
    intro fragments
    induction fragments with
    | nil => exact meets_pure rfl
    | cons fragment rest ih =>
      simp only [Setting.renderFragments, List.mapM_cons, bind_assoc, pure_bind, String.join_cons]
      refine meets_bind_eq (h fragment) fun first => ?_
      have hjoin := meets_bind_eq (f := fun others => pure (first ++ others)) ih
        fun others => meets_pure rfl
      simpa only [bind_assoc, pure_bind] using hjoin
  exact meets_bind_eq (meets_ofExcept rfl) fun compiled => hfragments compiled.fragments

/-- A request whose message is a single fragment gives the text of this fragment. -/
theorem meets_renderRequest_of_single {s : Setting} {nested : Message → String → Run String}
    {r : Message} {l text : String} {fragment : Fragment}
    (hlookup : s.catalog.lookup r l = .ok ⟨[fragment]⟩)
    (h : d.Meets st (s.renderFragment nested r l fragment) (· = .ok text)) :
    d.Meets st (s.renderRequest nested r l) (· = .ok text) := by
  have hfragments : d.Meets st (s.renderFragments nested r l [fragment]) (· = .ok text) := by
    have hjoin : d.Meets st (s.renderFragments nested r l [fragment]) (· = .ok (text ++ "")) :=
      meets_bind_eq (f := fun first => .ok (first ++ "")) h fun first =>
        meets_bind_eq (f := fun others => .ok (first ++ others)) (meets_pure rfl)
          fun others => meets_pure rfl
    rwa [String.append_empty] at hjoin
  rw [Setting.renderRequest, hlookup]
  exact meets_bind (P := (· = .ok ⟨[fragment]⟩)) (meets_ofExcept rfl)
    (fun compiled hcompiled => Except.ok.inj hcompiled ▸ hfragments) nofun

/-! ## Messages -/

/-- A message inside another meets what its text meets and what its failure meets once it is
wrapped. -/
theorem meets_translateNested {translate : Message → String → Run String} {r : Message}
    {l : String} {P post : Except RenderError String → Prop}
    (h : d.Meets st (translate r (Setting.targetLocale r l)) P)
    (hok : ∀ text, P (.ok text) → post (.ok text))
    (herror : ∀ cause, P (.error cause) →
      post (.error (.nested r (Setting.targetLocale r l) cause))) :
    d.Meets st (Setting.translateNested translate r l) post := by
  refine meets_outcome_bind h ?_
  rintro (cause | text) hx
  · exact meets_fail (herror cause hx)
  · exact meets_pure (hok text hx)

/-- Around the rendering of a message the stack grows by its frame, unless the frame is refused, and
shrinks again. -/
theorem meets_translateWithin_succ {s : Setting} {room : Nat} {r : Message} {l : String}
    {post : Except RenderError String → Prop}
    (hagain : st.any (Frame.same ⟨r, l⟩) = true →
      post (.error (.cyclicReference (Run.keysTo ⟨r, l⟩ st))))
    (hfresh : st.any (Frame.same ⟨r, l⟩) = false → d.stack st → d.stack (⟨r, l⟩ :: st) ∧
      d.Meets (⟨r, l⟩ :: st)
        (s.renderRequest (Setting.translateNested (s.translateWithin room)) r l) post) :
    d.Meets st (s.translateWithin (room + 1) r l) post := by
  rintro p rfl hd
  rw [Setting.translateWithin]
  cases hany : p.stack.any (Frame.same ⟨r, l⟩) with
  | true =>
    have henter := Run.run_enter_again hany
    rw [Run.moments_bind_of_error henter, Run.run_bind_of_error henter]
    refine ⟨fun q hq => ?_, rfl, hagain hany⟩
    rcases Run.mem_moments_step hq with rfl | rfl
    · exact hd
    · exact (congrArg Prod.snd henter) ▸ hd
  | false =>
    have henter := Run.run_enter_fresh hany
    obtain ⟨hgrown, hbody⟩ := hfresh hany hd.2
    obtain ⟨hmoments, hstack, hpost⟩ :=
      hbody { p with stack := ⟨r, l⟩ :: p.stack } rfl ⟨hd.1, hgrown⟩
    have hend := (hmoments _ (Run.end_mem _ _)).1
    -- The body ends on the grown stack, so that taking one frame off gives the stack back.
    rw [Run.moments_bind_of_ok henter, Run.run_bind_of_ok henter, Run.run_outcome_leave, hstack]
    refine ⟨fun q hq => ?_, rfl, hpost⟩
    rcases List.mem_append.1 hq with hq | hq
    · rcases Run.mem_moments_step hq with rfl | rfl
      · exact hd
      · exact (congrArg Prod.snd henter) ▸ ⟨hd.1, hgrown⟩
    · rcases Run.mem_moments_outcome_leave hq with hq | rfl
      · exact hmoments q hq
      · rw [hstack]
        exact ⟨hend, hd.2⟩

/-! ## Translations -/

/-- A translation has the outcome that its message meets on the empty stack, wrapped with its
request and locale. It leaves the registry under the discipline and everything else as it was. -/
theorem translateTo_of_meets {t : Translator} {r : Message} {l : String}
    {post : Except RenderError String → Prop}
    (hmeets : d.Meets [] (t.setting.translateWithin t.setting.maxDepth r l) post)
    (hregistry : d.registry t.registry) (hstack : d.stack []) :
    ∃ x, post x ∧ (t.translateTo r l).1 = x.mapError (TranslateError.mk r l) ∧
      (t.translateTo r l).2.setting = t.setting ∧ d.registry (t.translateTo r l).2.registry := by
  obtain ⟨hmoments, _, houtcome⟩ := hmeets ⟨t.registry, []⟩ rfl ⟨hregistry, hstack⟩
  have hend := (hmoments _ (Run.end_mem _ _)).1
  unfold Translator.translateTo
  cases hrun : (t.setting.translateWithin t.setting.maxDepth r l).run ⟨t.registry, []⟩ with
  | mk outcome p =>
    rw [hrun] at houtcome hend
    refine ⟨outcome, houtcome, ?_⟩
    cases outcome with
    | ok text => exact ⟨rfl, rfl, hend⟩
    | error cause => exact ⟨rfl, rfl, hend⟩

end Discipline

end Parlance
