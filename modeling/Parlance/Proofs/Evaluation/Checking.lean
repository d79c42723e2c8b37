import Parlance.Proofs.Evaluation.Listing
import Parlance.Proofs.Pattern.Wire

/-!
# Checking options before anything else

The options of a value are checked when the formatter for it is made. What is refused depends on
them and on the type of the value alone: neither on its content, nor on the catalog, nor on what the
messages in it give. If they are valid, no formatter refuses an option, since the only values that
are formatted on the way are the items of lists, and these are formatted without options.

Results:
1. `check_eq_ok_iff`, `exists_check_eq_error`: which options are unknown, and which one is named.
2. `exists_refused`: invalid options are refused for all values of a type alike.
3. `onError_textAt`: valid options are not refused, nor any inside the value.
4. `formats_listFormatter`: items are formatted without options.
5. `options_checked_first`: all of this at every moment.
-/

namespace Parlance

/-! ## Definitions -/

/-- The name that the formatter for a type has in errors. -/
def ValueType.formatter : ValueType → String
  | .string => "string"
  | .message => "message"
  | .list => "list"
  | .integer | .float => "number"
  | .custom name => name

/-- The options that values of a type may have. -/
def ValueType.optionNames : ValueType → List String
  | .list => ["type"]
  | .integer | .float => ["plural"]
  | .string | .message | .custom _ => []

namespace Options

/-- The options that values of a type can be formatted with. -/
structure Valid (options : Options) (type : ValueType) : Prop where
  known : ∀ name ∈ options.names, name ∈ type.optionNames
  joiner : type = .list → ∀ found, options.get? "type" = some found →
    found = .string "and" ∨ found = .string "or"
  plural : type = .integer ∨ type = .float → ∀ found, options.get? "plural" = some found →
    ∃ base, found = .string base

/-- The option that is refused and what is wrong with it: of options that are unknown the least, and
only if none is, the one of the wrong kind. -/
inductive Refused (options : Options) (type : ValueType) : String → OptionFault → Prop
  | unknown {name : String} :
      name ∈ options.names → name ∉ type.optionNames →
      (∀ other ∈ options.names, other ∉ type.optionNames → name ≤ other) →
      Refused options type name
        (if type.optionNames = [] then .takesNone else .notAllowed type.optionNames)
  | notAString {name : String} {found : Json} :
      (∀ other ∈ options.names, other ∈ type.optionNames) → name ∈ type.optionNames →
      options.get? name = some found → (∀ s, found ≠ .string s) →
      Refused options type name (.notAString found)
  | notAJoiner {found : String} :
      (∀ other ∈ options.names, other ∈ type.optionNames) → type = .list →
      options.get? "type" = some (.string found) → found ≠ "and" → found ≠ "or" →
      Refused options type "type" (.notAJoiner found)

end Options

/-- An error that refuses an option, and not one of a message that is nested. -/
def RenderError.IsRefusal : RenderError → Prop
  | .invalidOption .. => True
  | _ => False

/-- The formatter that the built-in factories make for a value. -/
def Factory.built (lookup : PluralLookup) (v : Value) (locale : String) (options : Options) :
    Except RenderError Formatter := do
  let factory ← Registry.first (builtins lookup) v
  factory.create locale options

/-- Whatever a script has formatted, is `allowed` with its locale and options. -/
def Script.Formats {bound : Nat} {α : Type} (allowed : Value → String → Options → Prop) :
    Script bound α → Prop
  | .done _ => True
  | .fail _ => True
  | .translate _ _ next => ∀ x, (next x).Formats allowed
  | .format part _ locale options next =>
    allowed part locale options ∧ ∀ x, (next x).Formats allowed
  | .inspect next => ∀ view, (next view).Formats allowed

/-! ## Unknown options -/

namespace Options

variable {options : Options} {formatter : String} {allowed : List String}

theorem valid_none (type : ValueType) : Options.none.Valid type where
  known := List.forall_mem_nil _
  joiner _ := nofun
  plural _ := nofun

theorem check_eq_ok_iff :
    options.check formatter allowed = .ok () ↔ ∀ name ∈ options.names, name ∈ allowed := by
  unfold check
  split
  · next h =>
    have hall := List.find?_eq_none.1 h
    simp only [true_iff]
    intro name hname
    simpa using hall name hname
  · next name h =>
    have hname : name ∉ allowed := by simpa using List.find?_some h
    refine ⟨nofun, fun hall => absurd (hall name (List.mem_of_find?_eq_some h)) hname⟩

/-- Names are in order, so that the first that is unknown is the least. -/
theorem exists_check_eq_error (formatter : String) (h : ¬∀ name ∈ options.names, name ∈ allowed) :
    ∃ name ∈ options.names, name ∉ allowed ∧
      (∀ other ∈ options.names, other ∉ allowed → name ≤ other) ∧
      options.check formatter allowed = .error (.invalidOption formatter name
        (if allowed = [] then .takesNone else .notAllowed allowed)) := by
  unfold check
  split
  · next hnone =>
    refine absurd (fun name hname => ?_) h
    simpa using List.find?_eq_none.1 hnone name hname
  · next name hfind =>
    obtain ⟨hname, before, after, hnames, hbefore⟩ := List.find?_eq_some_iff_append.1 hfind
    have hpairwise : options.names.Pairwise (· < ·) := Dict.names_pairwise options.ordered
    rw [hnames] at hpairwise
    have hafter : ∀ other ∈ after, name < other :=
      (List.pairwise_cons.1 (List.pairwise_append.1 hpairwise).2.1).1
    refine ⟨name, List.mem_of_find?_eq_some hfind, by simpa using hname, ?_, ?_⟩
    · intro other hother hunknown
      rw [hnames] at hother
      rcases List.mem_append.1 hother with hmem | hmem
      · exact absurd (by simpa using hbefore other hmem) hunknown
      · rcases List.mem_cons.1 hmem with rfl | hmem
        · exact le_rfl
        · exact le_of_lt (hafter other hmem)
    · cases allowed <;> rfl

/-! ## Options of the wrong kind -/

variable {type : ValueType}

theorem Valid.check (h : options.Valid type) :
    options.check formatter type.optionNames = .ok () :=
  check_eq_ok_iff.2 h.known

theorem Valid.exists_joiner (h : options.Valid .list) :
    ∃ joiner, Factory.joinerOf options = .ok joiner := by
  cases hget : options.get? "type" with
  | none =>
    refine ⟨.conjunction, ?_⟩
    rw [Factory.joinerOf, text?, Factory.joinerOption, hget]
    rfl
  | some found =>
    rcases h.joiner rfl found hget with rfl | rfl
    · refine ⟨.conjunction, ?_⟩
      rw [Factory.joinerOf, text?, Factory.joinerOption, hget]
      rfl
    · refine ⟨.disjunction, ?_⟩
      rw [Factory.joinerOf, text?, Factory.joinerOption, hget]
      rfl

theorem Valid.exists_plural (h : options.Valid type) (htype : type = .integer ∨ type = .float) :
    ∃ plural, options.text? "number" Factory.pluralOption = .ok plural := by
  rw [text?, Factory.pluralOption]
  cases hget : options.get? "plural" with
  | none => exact ⟨.none, rfl⟩
  | some found =>
    obtain ⟨base, rfl⟩ := h.plural htype found hget
    exact ⟨some base, rfl⟩

theorem exists_joinerOf_eq_error
    (hknown : ∀ name ∈ options.names, name ∈ ValueType.list.optionNames)
    (h : ¬∀ found, options.get? "type" = some found →
      found = .string "and" ∨ found = .string "or") :
    ∃ name fault, options.Refused .list name fault ∧
      Factory.joinerOf options = .error (.invalidOption "list" name fault) := by
  push Not at h
  obtain ⟨found, hget, hand, hor⟩ := h
  rw [Factory.joinerOf, text?, Factory.joinerOption, hget]
  cases found with
  | string s =>
    have hand : s ≠ "and" := fun hs => hand (congrArg Json.string hs)
    have hor : s ≠ "or" := fun hs => hor (congrArg Json.string hs)
    refine ⟨"type", _, .notAJoiner hknown rfl hget hand hor, ?_⟩
    simp only [bind, Except.bind]
    rfl
  | _ =>
    refine ⟨"type", _, .notAString hknown List.mem_cons_self hget ?_, rfl⟩
    intro s hs
    cases hs

theorem exists_plural_eq_error (htype : type.optionNames = ["plural"])
    (hknown : ∀ name ∈ options.names, name ∈ type.optionNames)
    (h : ¬∀ found, options.get? "plural" = some found → ∃ base, found = .string base) :
    ∃ name fault, options.Refused type name fault ∧
      options.text? "number" Factory.pluralOption =
        .error (.invalidOption "number" name fault) := by
  push Not at h
  obtain ⟨found, hget, hstring⟩ := h
  rw [text?, Factory.pluralOption, hget]
  refine ⟨"plural", .notAString found,
    .notAString hknown (htype ▸ List.mem_cons_self) hget hstring, ?_⟩
  cases found with
  | string s => exact absurd rfl (hstring s)
  | _ => rfl

end Options

/-! ## Making the formatter -/

namespace Factory

variable {lookup : PluralLookup} {v : Value} {locale : String} {options : Options}

/-- Whatever else is done to make the formatter for a value, its options are checked first. -/
theorem exists_built_eq (hbuiltin : ∀ name, v.type ≠ .custom name) :
    ∃ next, built lookup v locale options =
      options.check v.type.formatter v.type.optionNames >>= next := by
  cases v with
  | custom _ name _ _ => exact absurd rfl (hbuiltin name)
  | _ => exact ⟨_, rfl⟩

theorem create_list (locale : String) (options : Options) :
    list.create locale options = options.check "list" ["type"] >>= fun _ =>
      joinerOf options >>= fun joiner => .ok (listFormatter locale joiner) :=
  rfl

theorem built_list (hv : v.type = .list) (hcheck : options.check "list" ["type"] = .ok ()) :
    built lookup v locale options =
      joinerOf options >>= fun joiner => .ok (listFormatter locale joiner) := by
  have hbuilt : built lookup v locale options = list.create locale options := by
    cases v with
    | list items => rfl
    | _ => cases hv
  rw [hbuilt, create_list, hcheck]
  rfl

theorem built_number (hv : v.type = .integer ∨ v.type = .float)
    (hcheck : options.check "number" ["plural"] = .ok ()) :
    built lookup v locale options =
      options.text? "number" pluralOption >>= fun plural =>
        .ok (numberFormatter lookup locale plural) := by
  have hbuilt : built lookup v locale options = options.check "number" ["plural"] >>= fun _ =>
      options.text? "number" pluralOption >>= fun plural =>
        .ok (numberFormatter lookup locale plural) := by
    cases v with
    | integer n => rfl
    | float x => rfl
    | _ => rcases hv with hv | hv <;> cases hv
  rw [hbuilt, hcheck]
  rfl

theorem built_string (s : String) (hcheck : options.check "string" [] = .ok ()) :
    built lookup (.string s) locale options = .ok textFormatter := by
  have hbuilt : built lookup (.string s) locale options = options.check "string" [] >>= fun _ =>
      .ok textFormatter := rfl
  rw [hbuilt, hcheck]
  rfl

theorem built_message (r : Message) (hcheck : options.check "message" [] = .ok ()) :
    built lookup (.message r) locale options = .ok (messageFormatter locale) := by
  have hbuilt : built lookup (.message r) locale options =
      options.check "message" [] >>= fun _ => .ok (messageFormatter locale) := rfl
  rw [hbuilt, hcheck]
  rfl

end Factory

/-- Invalid options are refused for all values of a type alike. -/
theorem exists_refused {options : Options} {type : ValueType}
    (hbuiltin : ∀ name, type ≠ .custom name) (h : ¬options.Valid type) :
    ∃ name fault, options.Refused type name fault ∧
      ∀ (lookup : Factory.PluralLookup) (v : Value) (locale : String), v.type = type →
        Factory.built lookup v locale options =
          .error (.invalidOption type.formatter name fault) := by
  by_cases hknown : ∀ name ∈ options.names, name ∈ type.optionNames
  · by_cases hlist : type = .list
    · subst hlist
      obtain ⟨name, fault, hrefused, hjoiner⟩ := Options.exists_joinerOf_eq_error hknown
        fun hjoiner => h ⟨hknown, fun _ => hjoiner, nofun⟩
      refine ⟨name, fault, hrefused, fun lookup v locale hv => ?_⟩
      rw [Factory.built_list hv (Options.check_eq_ok_iff.2 hknown), hjoiner]
      rfl
    by_cases hnumber : type = .integer ∨ type = .float
    · obtain ⟨hformatter, hnames⟩ : type.formatter = "number" ∧ type.optionNames = ["plural"] := by
        rcases hnumber with rfl | rfl <;> exact ⟨rfl, rfl⟩
      obtain ⟨name, fault, hrefused, hplural⟩ := Options.exists_plural_eq_error hnames hknown
        fun hplural => h ⟨hknown, fun htype => absurd htype hlist, fun _ => hplural⟩
      refine ⟨name, fault, hrefused, fun lookup v locale hv => ?_⟩
      rw [hformatter, Factory.built_number (hv ▸ hnumber)
        (Options.check_eq_ok_iff.2 (hnames ▸ hknown)), hplural]
      rfl
    · exact absurd ⟨hknown, fun htype => absurd htype hlist, fun htype => absurd htype hnumber⟩ h
  · obtain ⟨name, hname, hunknown, hleast, hcheck⟩ :=
      Options.exists_check_eq_error type.formatter hknown
    refine ⟨name, _, .unknown hname hunknown hleast, ?_⟩
    rintro lookup v locale rfl
    obtain ⟨next, hnext⟩ := Factory.exists_built_eq hbuiltin
    rw [hnext, hcheck]
    rfl

/-! ## Valid options -/

namespace Evaluation

variable {P : RenderError → Prop} {word : String → Except RenderError String}

theorem onError_mapM {α β : Type} {f : α → Except RenderError β} {as : List α}
    (h : ∀ a ∈ as, OnError P (f a)) : OnError P (as.mapM f) := by
  rcases exists_map_eq_ok_or_error f as with ⟨bs, hbs⟩ | ⟨before, a, after, e, rfl, hbefore, ha⟩
  · rw [mapM_eq_ok hbs]
    exact .ok bs
  · rw [mapM_eq_error hbefore ha]
    exact .error (h a (by simp) e ha)

theorem onError_listText (hword : ∀ key, OnError P (word key)) (joiner : Factory.Joiner)
    (texts : List String) : OnError P (listText word joiner texts) := by
  match texts with
  | [] => exact hword _
  | [_] => exact .ok _
  | [_, _] => exact .bind (hword _) fun _ => .ok _
  | _ :: _ :: _ :: _ => exact .bind (hword _) fun _ => .bind (hword _) fun _ => .ok _

theorem onError_pluralText (hword : ∀ key, OnError P (word key)) (has : String → Bool)
    (lookup : Factory.PluralLookup) (base : String) (tag : PluralTag) :
    OnError P (pluralText word has lookup base tag) := by
  cases lookup with
  | byTag => exact hword _
  | oneFirst =>
    have hone := hword (Factory.pluralKey base .one)
    rw [pluralText]
    cases hfirst : word (Factory.pluralKey base .one) with
    | ok text => exact .ok text
    | error e =>
      dsimp only
      split
      · exact hword _
      · exact .error (hone e hfirst)

theorem onError_countedText (hword : ∀ key, OnError P (word key))
    (hspec : ∀ e, P (.numberSpec e)) (has : String → Bool) (lookup : Factory.PluralLookup)
    (n : Number) (plural : Option String) :
    OnError P (countedText word has lookup n plural) := by
  have happly (spec : String) : OnError P (Factory.applyFormat spec n) := by
    unfold Factory.applyFormat
    split
    · exact .error (hspec _)
    · split
      · exact .error (hspec _)
      · exact .ok _
  refine .bind (.bind (hword _) happly) fun text => ?_
  cases plural with
  | none => exact .ok text
  | some base => exact .bind (onError_pluralText hword has lookup base _) fun _ => .ok _

end Evaluation

section

variable {t : Translator} {p : Progress} {lookup : Factory.PluralLookup}
  (hreliable : p.registry.Reliable (Factory.builtins lookup))

/-- What a message gives inside another one, is not refused, as its failure is wrapped. -/
theorem onError_nestedAt (s : Scanner) (st : List Frame) (m : Message) (around : String) :
    OnError (fun e => ¬e.IsRefusal) (s.nestedAt st m around) := by
  intro e he
  obtain ⟨cause, -, rfl⟩ := mapError_eq_error.1 he
  exact id

include hreliable

theorem textAt_of_built {v : Value} {locale : String} {options : Options}
    {made : Except RenderError Formatter} (h : Factory.built lookup v locale options = made) :
    t.textAt p v locale options = made >>= fun formatter =>
      (formatter v).outcome ((Scanner.mk t.setting (Factory.builtins lookup)).view p.stack)
        ((Scanner.mk t.setting (Factory.builtins lookup)).nestedAt p.stack) fun part _ l o =>
          (Scanner.mk t.setting (Factory.builtins lookup)).valueText p.stack
            ((Scanner.mk t.setting (Factory.builtins lookup)).nestedAt p.stack) part l o := by
  rw [textAt_eq_valueText hreliable (Factory.builtins_typeDetermined lookup), Scanner.valueText,
    ← h]
  rfl

theorem onError_wordAt (locale key : String) :
    OnError (fun e => ¬e.IsRefusal) (t.wordAt p locale key) := by
  rw [wordAt_eq_nestedAt hreliable (Factory.builtins_typeDetermined lookup)]
  exact onError_nestedAt _ _ _ _

theorem onError_textAt_number {v : Value} {n : Number} (hn : v.number? = some n) (locale : String)
    {options : Options} {plural : Option String}
    (hcheck : options.check "number" [Factory.pluralOption] = .ok ())
    (hplural : options.text? "number" Factory.pluralOption = .ok plural) :
    OnError (fun e => ¬e.IsRefusal) (t.textAt p v locale options) := by
  have hfactory : (p.registry.factoryFor v).1 = .ok (Factory.number lookup) := by
    rw [(hreliable.factoryFor (Factory.builtins_typeDetermined lookup) v).1,
      Factory.first_builtins]
    cases v with
    | integer n => rfl
    | float x => rfl
    | _ => cases hn
  rw [Evaluation.textAt_eq_numberValue hn hfactory, Evaluation.numberValue, hcheck, hplural]
  exact Evaluation.onError_countedText (onError_wordAt hreliable locale) (fun _ => id) _ lookup n
    plural

/-- Valid options are not refused, and neither is any option of the items of a list. -/
theorem onError_textAt (locale : String) : (v : Value) → (options : Options) →
    options.Valid v.type → OnError (fun e => ¬e.IsRefusal) (t.textAt p v locale options)
  | .string s, options, h => by
    rw [textAt_of_built hreliable (Factory.built_string s h.check)]
    exact .ok s
  | .message r, options, h => by
    rw [textAt_of_built hreliable (Factory.built_message r h.check)]
    show OnError _ (Script.outcome _ _ _ (Script.ofExcept _))
    rw [Script.outcome_ofExcept]
    exact onError_nestedAt _ _ _ _
  | .list items, options, h => by
    obtain ⟨joiner, hjoiner⟩ := h.exists_joiner
    rw [textAt_list hreliable (Factory.builtins_typeDetermined lookup) rfl h.check hjoiner]
    -- Items are smaller, and for every type it is valid to have no options.
    exact .bind (Evaluation.onError_mapM fun item hitem =>
        onError_textAt locale item .none (Options.valid_none item.type))
      fun texts => Evaluation.onError_listText (onError_wordAt hreliable locale) joiner texts
  | .integer n, options, h => by
    obtain ⟨plural, hplural⟩ := h.exists_plural (Or.inl rfl)
    exact onError_textAt_number hreliable rfl locale h.check hplural
  | .float x, options, h => by
    obtain ⟨plural, hplural⟩ := h.exists_plural (Or.inr rfl)
    exact onError_textAt_number hreliable rfl locale h.check hplural
  | .custom i name text parts, options, _ => by
    have hbuilt : Factory.built lookup (.custom i name text parts) locale options =
        .error (.noFormatter (.custom i name text parts)) := rfl
    rw [textAt_of_built hreliable hbuilt]
    exact .error id
termination_by v => v.size
decreasing_by exact Value.size_lt_of_mem_parts (v := .list items) hitem

end

/-! ## Items -/

namespace Script

variable {bound : Nat} {α β : Type} {allowed : Value → String → Options → Prop}

theorem formats_bind {k : α → Script bound β} (script : Script bound α)
    (h : script.Formats allowed) (hk : ∀ a, (k a).Formats allowed) :
    (script >>= k).Formats allowed := by
  show (script.bind k).Formats allowed
  induction script with
  | done a => exact hk a
  | fail e => trivial
  | translate r l next ih => exact fun x => ih x (h x)
  | format v hv l o next ih => exact ⟨h.1, fun x => ih x (h.2 x)⟩
  | inspect next ih => exact fun view => ih view (h view)

theorem formats_ofExcept (x : Except RenderError α) :
    (ofExcept x : Script bound α).Formats allowed := by
  cases x <;> trivial

theorem formats_translatedKey (key locale : String) :
    (translatedKey key locale : Script bound String).Formats allowed :=
  fun x => formats_ofExcept x

end Script

namespace Factory

variable {bound : Nat} {allowed : Value → String → Options → Prop}

theorem formats_itemTexts {locale : String} (items : List Value) (h : ∀ v ∈ items, v.size < bound)
    (hallowed : ∀ v ∈ items, allowed v locale .none) :
    (itemTexts locale items h).Formats allowed := by
  induction items with
  | nil => trivial
  | cons v rest ih =>
    have hrest (hsize : ∀ w ∈ rest, w.size < bound) :
        (itemTexts locale rest hsize).Formats allowed :=
      ih hsize fun w hw => hallowed w (List.mem_cons_of_mem v hw)
    refine Script.formats_bind _ ⟨hallowed v List.mem_cons_self, Script.formats_ofExcept⟩ ?_
    exact fun text => Script.formats_bind _ (hrest _) fun others => trivial

theorem formats_joined (locale : String) (joiner : Joiner) (texts : List String) :
    (joined locale joiner texts : Script bound String).Formats allowed := by
  match texts with
  | [] => trivial
  | [_] => trivial
  | [_, _] => exact Script.formats_bind _ (Script.formats_translatedKey _ locale) fun _ => trivial
  | _ :: _ :: _ :: _ =>
    refine Script.formats_bind _ (Script.formats_translatedKey _ locale) fun comma => ?_
    exact Script.formats_bind _ (Script.formats_translatedKey _ locale) fun _ => trivial

/-- Whatever the options of a list, its items are formatted without any. -/
theorem formats_listFormatter (locale : String) (joiner : Joiner) (items : List Value) :
    (listFormatter locale joiner (.list items)).Formats fun item l o =>
      item ∈ items ∧ l = locale ∧ o = .none := by
  match items with
  | [] => exact Script.formats_translatedKey _ locale
  | first :: rest =>
    refine Script.formats_bind _ (formats_itemTexts _ _ fun item hitem => ⟨hitem, rfl, rfl⟩) ?_
    exact fun texts => formats_joined locale joiner texts

theorem formats_of_create {locale : String} {options : Options} {formatter : Formatter}
    (h : list.create locale options = .ok formatter) (items : List Value) :
    (formatter (.list items)).Formats fun item l o => item ∈ items ∧ l = locale ∧ o = .none := by
  rw [create_list] at h
  cases hcheck : options.check "list" ["type"] with
  | error e => rw [hcheck] at h; cases h
  | ok _ =>
    cases hjoiner : joinerOf options with
    | error e => rw [hcheck, hjoiner] at h; cases h
    | ok joiner =>
      rw [hcheck, hjoiner] at h
      obtain rfl := Except.ok.inj h
      exact formats_listFormatter locale joiner items

end Factory

/-! ## At every moment -/

/-- Options for which no formatter is made, end the rendering of a value before it has begun. -/
theorem run_format_of_built {p : Progress} {lookup : Factory.PluralLookup}
    (hreliable : p.registry.Reliable (Factory.builtins lookup)) {v : Value} {locale : String}
    {options : Options} {e : RenderError} (h : Factory.built lookup v locale options = .error e)
    (s : Setting) (nested : Message → String → Run String) :
    (s.format nested v locale options).run p =
      (.error e, { p with registry := (p.registry.factoryFor v).2 }) := by
  have hformatter : (Run.formatterFor v locale options).run p =
      (Factory.built lookup v locale options,
        { p with registry := (p.registry.factoryFor v).2 }) := by
    rw [Run.formatterFor, Run.run_step, Registry.formatterFor_eq,
      (hreliable.factoryFor (Factory.builtins_typeDetermined lookup) v).1]
    rfl
  rw [h] at hformatter
  rw [Setting.format]
  exact Run.run_bind_of_error hformatter

/-- Invalid options end the rendering of every value of the type alike. -/
theorem exists_refused_format {p : Progress} {lookup : Factory.PluralLookup}
    (hreliable : p.registry.Reliable (Factory.builtins lookup)) {type : ValueType}
    (hbuiltin : ∀ name, type ≠ .custom name) {options : Options} (h : ¬options.Valid type) :
    ∃ name fault, options.Refused type name fault ∧
      ∀ (s : Setting) (nested : Message → String → Run String) (w : Value) (l : String),
        w.type = type →
        (s.format nested w l options).run p =
          (.error (.invalidOption type.formatter name fault),
            { p with registry := (p.registry.factoryFor w).2 }) := by
  obtain ⟨name, fault, hrefused, hbuilt⟩ := exists_refused hbuiltin h
  exact ⟨name, fault, hrefused, fun s nested w l hw =>
    run_format_of_built hreliable (hbuilt lookup w l hw) s nested⟩

/-- Take a progress whose registry has only the built-in factories and is reliable, as it always is
in a translation, and a value that is not a custom one, with any options.
* The value fails because an option of its own is refused exactly if the options are not valid for
  its type. What is refused in a message in it comes wrapped, and does not count.
* Then one option is named: the least that is unknown, or else the one of the wrong kind. It is so
  for all values of this type, in all locales, with any catalog and whatever messages give, since
  none is translated: nothing has changed but that the factory for the value is remembered.
* The script for a list has its items formatted, and nothing else, each without options. So no
  option of an item is refused, and valid options of the list choose the joiner only. -/
theorem options_checked_first {t : Translator} {p : Progress} {lookup : Factory.PluralLookup}
    (hreliable : p.registry.Reliable (Factory.builtins lookup)) (v : Value)
    (hbuiltin : ∀ name, v.type ≠ .custom name) (locale : String) (options : Options) :
    let shown := t.textAt p v locale options
    ((∃ formatter name fault, shown = .error (.invalidOption formatter name fault)) ↔
      ¬options.Valid v.type) ∧
    (¬options.Valid v.type → ∃ name fault, options.Refused v.type name fault ∧
      ∀ (s : Setting) (nested : Message → String → Run String) (w : Value) (l : String),
        w.type = v.type →
        (s.format nested w l options).run p =
          (.error (.invalidOption v.type.formatter name fault),
            { p with registry := (p.registry.factoryFor w).2 })) ∧
    ∀ items, v = .list items →
      (∀ l o formatter, Factory.list.create l o = .ok formatter →
        (formatter v).Formats fun item l' o' => item ∈ items ∧ l' = l ∧ o' = .none) ∧
      (∀ item ∈ items, ∀ formatter name fault,
        t.textAt p item locale .none ≠ .error (.invalidOption formatter name fault)) ∧
      (options.Valid .list → ∃ joiner, Factory.joinerOf options = .ok joiner ∧ shown =
        Evaluation.listValue (t.wordAt p locale) (fun item => t.textAt p item locale .none) joiner
          items) := by
  intro shown
  refine ⟨⟨?_, fun hinvalid => ?_⟩, exists_refused_format hreliable hbuiltin, ?_⟩
  · rintro ⟨formatter, name, fault, hshown⟩ hvalid
    exact onError_textAt hreliable locale v options hvalid _ hshown trivial
  · obtain ⟨name, fault, -, hformat⟩ := exists_refused_format hreliable hbuiltin hinvalid
    exact ⟨_, name, fault, congrArg Prod.fst (hformat t.setting _ v locale rfl)⟩
  · rintro items rfl
    refine ⟨fun l o formatter hcreate => Factory.formats_of_create hcreate items,
      fun item _ formatter name fault hitem => ?_, fun hvalid => ?_⟩
    · have hnone := Options.valid_none item.type
      exact onError_textAt hreliable locale item .none hnone _ hitem trivial
    · obtain ⟨joiner, hjoiner⟩ := hvalid.exists_joiner
      exact ⟨joiner, hjoiner, textAt_list hreliable (Factory.builtins_typeDetermined lookup) rfl
        hvalid.check hjoiner⟩

/-! ## A list that cannot be formatted -/

/-- Options with a joiner that there is not, and two more that lists do not know. -/
def misused : Options :=
  Options.ofMembers [("type", .string "xor"), ("style", .null), ("case", .null)]

/-- The least unknown option is refused although the list is empty, and then of every list,
whatever its items would give. -/
theorem refused_of_misused :
    (∀ name, Value.type (.list []) ≠ .custom name) ∧
    (Translator.new "en").textAt ⟨Registry.builtins .byTag, []⟩ (.list []) "en" misused =
      .error (.invalidOption "list" "case" (.notAllowed ["type"])) ∧
    ∀ items, ∃ formatter name fault,
      (Translator.new "en").textAt ⟨Registry.builtins .byTag, []⟩ (.list items) "en" misused =
        .error (.invalidOption formatter name fault) := by
  have hbuiltin (items : List Value) (name : String) : Value.type (.list items) ≠ .custom name := by
    intro h
    cases h
  have hempty : (Translator.new "en").textAt ⟨Registry.builtins .byTag, []⟩ (.list []) "en"
      misused = .error (.invalidOption "list" "case" (.notAllowed ["type"])) := by cbv
  have hreliable := Registry.Reliable.of_resolved_eq_nil (r := Registry.builtins .byTag) rfl
  have hchecked := fun items => options_checked_first (t := Translator.new "en")
    (p := ⟨Registry.builtins .byTag, []⟩) hreliable (.list items) (hbuiltin items) "en" misused
  have hinvalid : ¬misused.Valid .list := (hchecked []).1.1 ⟨_, _, _, hempty⟩
  exact ⟨hbuiltin [], hempty, fun items => (hchecked items).1.2 hinvalid⟩

end Parlance
