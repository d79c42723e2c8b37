import Parlance.Proofs.Rendering.CallStack

/-!
# The frames of an error

The failure of a nested message is wrapped once for each message around it. If formatters and the
strategy for missing texts are candid, the requests met on the way from the outermost to the cause
are the stack at the place of the failure.

Results:
1. `isMissingText_iff`: an error counts as a missing text exactly if its root is one.
2. `Fails.path_length_le`, `Fails.of_root_maxDepthExceeded`, `Fails.of_root_cyclicReference`: what
   the stack and the frames of an error make together, by induction on the failure.
3. `error_frames_mirror_call_stack`: the same of a whole translation, for every translator with
   candid formatters; the built-in ones are candid.
-/

namespace Parlance

/-! ## Roots -/

theorem RenderError.isMissingText_iff (e : RenderError) :
    e.isMissingText = true ↔
      ∃ key locale searched suggestions, e.root = .missingText key locale searched suggestions := by
  induction e with
  | nested r l cause ih => simpa [isMissingText, root] using ih
  | missingText key locale searched suggestions => simp [isMissingText, root]
  | _ => simp [isMissingText, root]

/-! ## Paths -/

/-- A frame as an error tells it. -/
def Frame.pair (f : Frame) : Message × String :=
  (f.request, f.locale)

/-- Two requests are equal and translated to the same locale. -/
def SameFrame (f g : Message × String) : Prop :=
  f.2 = g.2 ∧ f.1.same g.1 = true

theorem SameFrame.symm {f g : Message × String} (h : SameFrame f g) : SameFrame g f :=
  ⟨h.1.symm, by rw [Request.same_comm]; exact h.2⟩

/-- The messages from the bottom of a stack to the cause of the failure of `r` on that stack. -/
def path (st : List Frame) (r : Message) (l : String) (cause : RenderError) :
    List (Message × String) :=
  st.reverse.map Frame.pair ++ (r, l) :: cause.frames

theorem path_nested (st : List Frame) (r inner : Message) (l l' : String) (cause : RenderError) :
    path st r l (.nested inner l' cause) = path (⟨r, l⟩ :: st) inner l' cause := by
  simp [path, RenderError.frames, Frame.pair]

theorem path_length (st : List Frame) (r : Message) (l : String) (cause : RenderError) :
    (path st r l cause).length = st.length + 1 + cause.frames.length := by
  simp [path]
  omega

/-- A path that ends in a cycle: its last message equals an earlier one, and before it all messages
are distinct. -/
def EndsInCycle (frames : List (Message × String)) : Prop :=
  ∃ before last, frames = before ++ [last] ∧ (∃ f ∈ before, SameFrame f last) ∧
    before.Pairwise fun f g => ¬SameFrame f g

namespace Fails

variable {limit : Nat} {st : List Frame} {r : Message} {l : String} {e : RenderError}

/-- A path is at most one longer than the stack may be high. -/
theorem path_length_le (h : Fails RenderError.IsOwn limit limit st r l e) :
    (path st r l e).length ≤ limit + 1 := by
  induction h with
  | tooDeep hst => simp [path_length, RenderError.frames, hst]
  | again hst _ =>
    simp only [path_length, RenderError.frames, List.length_nil]
    omega
  | raised hst he =>
    rw [path_length, he.frames_eq, List.length_nil]
    omega
  | nested _ _ _ ih =>
    rw [path_nested]
    exact ih

/-- A path to an exceeded depth names the limit and is one longer. -/
theorem of_root_maxDepthExceeded {depth : Nat}
    (h : Fails RenderError.IsOwn limit limit st r l e) (hroot : e.root = .maxDepthExceeded depth) :
    depth = limit ∧ (path st r l e).length = limit + 1 := by
  induction h with
  | tooDeep hst =>
    obtain rfl := RenderError.maxDepthExceeded.inj hroot
    simp [path_length, RenderError.frames, hst]
  | again _ _ => cases hroot
  | raised _ he =>
    rw [he.root_eq] at hroot
    rw [hroot] at he
    cases he
  | nested _ _ _ ih =>
    rw [path_nested]
    exact ih hroot

/-- A path to a cycle has the keys that the error tells, and ends in the cycle. -/
theorem of_root_cyclicReference {chain : List String}
    (h : Fails RenderError.IsOwn limit limit st r l e) (hst : Distinct st)
    (hroot : e.root = .cyclicReference chain) :
    chain = (path st r l e).map (fun f => f.1.key) ∧ EndsInCycle (path st r l e) := by
  induction h with
  | tooDeep _ => cases hroot
  | @again st r l _ hany =>
    obtain rfl := RenderError.cyclicReference.inj hroot
    refine ⟨by simp [path, RenderError.frames, Run.keysTo, Frame.pair], st.reverse.map Frame.pair,
      (r, l), rfl, ?_, ?_⟩
    · obtain ⟨g, hg, hsame⟩ := List.any_eq_true.1 hany
      obtain ⟨hlocale, hrequest⟩ := (Frame.same_iff _ g).1 hsame
      refine ⟨g.pair, List.mem_map_of_mem (List.mem_reverse.2 hg), ?_⟩
      exact SameFrame.symm ⟨hlocale, hrequest⟩
    · -- The frames of the stack, read from the bottom: equality is symmetric.
      rw [List.pairwise_map, List.pairwise_reverse]
      exact hst.imp fun hdistinct hsame => hdistinct hsame.symm
  | raised _ he =>
    rw [he.root_eq] at hroot
    rw [hroot] at he
    cases he
  | nested _ hany _ ih =>
    rw [path_nested]
    exact ih (distinct_cons hany hst) hroot

end Fails

/-! ## Translations -/

namespace Translator

/-- A failed translation by candid formatters fails as `Fails` says on the empty stack. -/
theorem fails_of_translateTo {t : Translator} {r : Message} {l : String} {e : TranslateError}
    (hfactories : ∀ f ∈ t.registry.factories, f.Candid RenderError.IsOwn)
    (hmissing : ∀ m e, t.catalog.missing m = .error e → e.IsOwn)
    (h : (t.translateTo r l).1 = .error e) :
    e.request = r ∧ e.locale = l ∧
      Fails RenderError.IsOwn t.setting.maxDepth t.setting.maxDepth [] r l e.cause := by
  have hmeets : (Discipline.candid RenderError.IsOwn (fun _ => True) fun _ => True).Meets []
      (t.setting.translateWithin t.setting.maxDepth r l)
      (OnError (Fails RenderError.IsOwn t.setting.maxDepth t.setting.maxDepth [] r l)) :=
    Discipline.meets_translateWithin (fun _ => id) (fun _ _ _ _ => id) hmissing
      (fun _ _ _ _ _ => trivial) t.setting.maxDepth [] (Nat.zero_add _) r l
  obtain ⟨x, hfails, houtcome, _⟩ :=
    Discipline.translateTo_of_meets hmeets ⟨hfactories, trivial⟩ trivial
  rw [houtcome] at h
  obtain ⟨cause, rfl, rfl⟩ := mapError_eq_error.1 h
  exact ⟨rfl, rfl, hfails cause rfl⟩

end Translator

theorem TranslateError.frames_eq_path (e : TranslateError) :
    e.frames = path [] e.request e.locale e.cause :=
  rfl

/-- The frames of an error mirror the call stack. In a translator whose formatters and strategy for
missing texts are candid, as all built-in ones are, the frames of a failed translation begin with
its request and locale and are at most one more than the depth allowed. If the root is an exceeded
depth, it names the depth allowed, and the frames are one more. If it is a cycle, its chain lists
the keys of the frames, the last frame equals an earlier one, and no two before it are equal. And
the error counts as a missing text exactly if its root is one. -/
theorem error_frames_mirror_call_stack :
    (∀ lookup, ∀ f ∈ Factory.builtins lookup, f.Candid RenderError.IsOwn) ∧
    (∀ m e, failFast m = .error e ∨ substitute m = .error e → e.IsOwn) ∧
    ∀ t : Translator,
      (∀ f ∈ t.registry.factories, f.Candid RenderError.IsOwn) →
      (∀ m e, t.catalog.missing m = .error e → e.IsOwn) →
      ∀ r l e, (t.translateTo r l).1 = .error e →
        e.frames.head? = some (r, l) ∧
        e.frames.length ≤ t.setting.maxDepth + 1 ∧
        (∀ depth, e.root = .maxDepthExceeded depth →
          depth = t.setting.maxDepth ∧ e.frames.length = t.setting.maxDepth + 1) ∧
        (∀ chain, e.root = .cyclicReference chain →
          chain = e.frames.map (fun f => f.1.key) ∧
          ∃ before last, e.frames = before ++ [last] ∧
            (∃ f ∈ before, f.2 = last.2 ∧ f.1.same last.1 = true) ∧
            before.Pairwise fun f g => ¬(f.2 = g.2 ∧ f.1.same g.1 = true)) ∧
        (e.isMissingText = true ↔
          ∃ key locale searched suggestions,
            e.root = .missingText key locale searched suggestions) := by
  refine ⟨Factory.builtins_candid, fun m e h => h.elim isOwn_of_failFast isOwn_of_substitute,
    fun t hfactories hmissing r l e h => ?_⟩
  obtain ⟨rfl, rfl, hfails⟩ := Translator.fails_of_translateTo hfactories hmissing h
  rw [e.frames_eq_path]
  refine ⟨rfl, hfails.path_length_le, fun depth => hfails.of_root_maxDepthExceeded,
    fun chain => hfails.of_root_cyclicReference List.Pairwise.nil, ?_⟩
  exact e.cause.isMissingText_iff

/-! ## A formatter that translates its own message -/

/-- A factory whose formatter translates the message of a key with its value. -/
def echoFactory (key : String) : Factory where
  name := "echo"
  canHandle v :=
    match v with
    | .custom .. => true
    | _ => false
  create locale _ := .ok fun v => .translated ((Request.ofKey key).arg v) locale

/-- A translator whose only message shows its argument, with the echo of that message. -/
def echoing : Translator where
  setting :=
    { catalog :=
        ⟨Store.empty.insert "en" "k" ⟨[.argument (.position 0) .none]⟩, fun l => [l], failFast⟩
      defaultLocale := "en"
      maxDepth := 5 }
  registry := (Registry.builtins .byTag).register (echoFactory "k")

/-- The message that comes back to itself. -/
def echoRequest : Message :=
  (Request.ofKey "k").arg (.custom 0 "Echo" "" [])

/-- Its failure: the request in itself, which is a cycle. -/
def echoFailure : TranslateError :=
  ⟨echoRequest, "en", .nested echoRequest "en" (.cyclicReference ["k", "k"])⟩

theorem candid_echoing :
    ∀ f ∈ echoing.registry.factories, f.Candid RenderError.IsOwn := by
  intro f hf
  rcases List.mem_append.1 hf with hf | hf
  · exact Factory.builtins_candid _ f hf
  · obtain rfl := List.mem_singleton.1 hf
    exact fun locale _ v => Script.candid_translated _ locale

theorem error_frames_of_echo :
    (∀ f ∈ echoing.registry.factories, f.Candid RenderError.IsOwn) ∧
    (∀ m e, echoing.catalog.missing m = .error e → e.IsOwn) ∧
    (echoing.translateTo echoRequest "en").1 = .error echoFailure ∧
    ["k", "k"] = echoFailure.frames.map (fun f => f.1.key) ∧
    ∃ before last, echoFailure.frames = before ++ [last] ∧
      (∃ f ∈ before, f.2 = last.2 ∧ f.1.same last.1 = true) ∧
      before.Pairwise fun f g => ¬(f.2 = g.2 ∧ f.1.same g.1 = true) := by
  have hmissing : ∀ m e, echoing.catalog.missing m = .error e → e.IsOwn :=
    fun _ _ h => isOwn_of_failFast h
  have hfailed : (echoing.translateTo echoRequest "en").1 = .error echoFailure := by cbv
  obtain ⟨_, _, _, hcycle, _⟩ :=
    error_frames_mirror_call_stack.2.2 echoing candid_echoing hmissing _ _ _ hfailed
  exact ⟨candid_echoing, hmissing, hfailed, hcycle _ rfl⟩

end Parlance
