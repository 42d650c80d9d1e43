import EditorLink.Message.CallFault

/-!
# EditorLink — what is told of a handler that failed

A failure is a chain: contexts around a root, and behind the root what caused it. If there is an error object
among the contexts and the root, the outermost one is told as it is. Otherwise the whole chain is told in words.

A context is put around a failure by a handler that passes it on; it may be a text or an error object. The root is a
text, an error object, or the fault of a call that the handler made. A fault of a call has causes of its own, and
they are links of the chain like the contexts. One of them is left out: a call that failed because the stream is
broken has the same words as the fault of the stream, and so counts as one link with it.

The words are those of each link from the outermost to the last, with a colon between two. A cause whose words the
link before it repeats is told twice; this is how the texts of the faults are made.

The specification is `Reports`, a relation that says nothing of lists of contexts or of how a chain is walked. The
converter is proved to be that relation, and what contexts do to it is then read off.

## Results

* `Link`, `Cause` — the links of a chain, and which one stands behind which;
* `Tells`, `tells_chain` — the words of a chain, link by link;
* `Chooses`, `chooses_iff` — the error object that is met first from the outermost context on;
* `Reports`, `ofHandlerFault_eq_iff` — what is told of a failure;
* `context_hides_nothing` — for all failures, and plain contexts do not matter if there is an error object.
-/

namespace EditorLink.Message

open Json (TextFault)

-- ---------------------------------------------------------------------------
-- Chains
-- ---------------------------------------------------------------------------

/-- A link of a chain of failures. -/
inductive Link where
  | plain (text : String)
  | object (error : ErrorObject)
  | call (fault : CallFault)
  | framing (fault : Framing.Fault)
  | parsing (fault : TextFault)
  | within (context : Context) (around : Link)

/-- A link in its own words. -/
def Link.words : Link → String
  | .plain text => text
  | .object error => error.message
  | .call fault => fault.message
  | .framing fault => fault.message
  | .parsing fault => fault.message
  | .within context _ => context.text

/-- The link that stands behind another. A call that failed because the stream is broken is no link of its own:
it speaks for the fault of the stream, and behind it stands what stands behind that. -/
inductive Cause : Link → Link → Prop
  | within (context : Context) (around : Link) : Cause (.within context around) around
  | frame {fault : Framing.Fault} {cause : Link} (h : Cause (.framing fault) cause) :
    Cause (.call (.frame fault)) cause
  | invalidBody (fault : TextFault) : Cause (.framing (.invalidBody fault)) (.parsing fault)
  | unwritable (fault : TextFault) : Cause (.framing (.unwritable fault)) (.parsing fault)
  | stream (reason : String) : Cause (.framing (.stream reason)) (.plain reason)
  | unwritableParams (fault : TextFault) : Cause (.call (.unwritableParams fault)) (.parsing fault)
  | unreadableResult (fault : TextFault) : Cause (.call (.unreadableResult fault)) (.parsing fault)

/-- The words of a link and of all that stand behind it. -/
inductive Tells : Link → List String → Prop
  | last {l : Link} (h : ∀ cause, ¬ Cause l cause) : Tells l [l.words]
  | next {l cause : Link} {words : List String} (h : Cause l cause) (hwords : Tells cause words) :
    Tells l (l.words :: words)

def Root.link : Root → Link
  | .plain text => .plain text
  | .call fault => .call fault
  | .object error => .object error

/-- The outermost link of a failure. -/
def HandlerFault.link (fault : HandlerFault) : Link := fault.contexts.foldr .within fault.root.link

/-- One link stands behind another, or none. -/
theorem Cause.unique {l cause cause' : Link} (h : Cause l cause) (h' : Cause l cause') :
    cause = cause' := by
  induction h with
  | within | invalidBody | unwritable | stream | unwritableParams | unreadableResult => cases h'; rfl
  | frame _ ih =>
    cases h' with
    | frame h' => exact ih h'

/-- So a chain has one wording. -/
theorem Tells.unique {l : Link} {words words' : List String} (h : Tells l words)
    (h' : Tells l words') : words = words' := by
  induction h generalizing words' with
  | last hlast =>
    cases h' with
    | last => rfl
    | next hcause => exact absurd hcause (hlast _)
  | next hcause _ ih =>
    cases h' with
    | last hlast => exact absurd hcause (hlast _)
    | next hcause' hwords' =>
      cases hcause.unique hcause'
      rw [ih hwords']

theorem tells_plain (text : String) : Tells (.plain text) [text] := .last nofun

theorem tells_parsing (fault : TextFault) : Tells (.parsing fault) [fault.message] := .last nofun

/-- A call that failed because the stream is broken is told as the fault of the stream. -/
theorem Tells.frame {fault : Framing.Fault} {words : List String} (h : Tells (.framing fault) words) :
    Tells (.call (.frame fault)) words := by
  cases h with
  | last hlast =>
    refine .last fun cause h => ?_
    cases h with
    | frame hcause => exact hlast _ hcause
  | next hcause hwords => exact .next (.frame hcause) hwords

/-- Some faults of a stream have a cause. -/
theorem tells_framing (fault : Framing.Fault) :
    Tells (.framing fault) (CallFault.frame fault).chain := by
  cases fault with
  | invalidBody fault => exact .next (.invalidBody fault) (tells_parsing fault)
  | unwritable fault => exact .next (.unwritable fault) (tells_parsing fault)
  | stream reason => exact .next (.stream reason) (tells_plain reason)
  | missingLength | invalidLength | frameTooLarge | headerTooLarge | invalidHeader | unexpectedEnd =>
    exact .last nofun

/-- A call that failed, with all that stands behind it. -/
theorem tells_call (fault : CallFault) : Tells (.call fault) fault.chain := by
  cases fault with
  | frame fault => exact (tells_framing fault).frame
  | unwritableParams fault => exact .next (.unwritableParams fault) (tells_parsing fault)
  | unreadableResult fault => exact .next (.unreadableResult fault) (tells_parsing fault)
  | remote | unknownId | closed | timedOut => exact .last nofun

theorem tells_root (root : Root) : Tells root.link root.chain := by
  cases root with
  | plain text => exact tells_plain text
  | call fault => exact tells_call fault
  | object error => exact .last nofun

/-- **The words of a failure** are those of its contexts, outermost first, and then those of the root and of
its causes. -/
theorem tells_chain (fault : HandlerFault) : Tells fault.link fault.chain := by
  obtain ⟨contexts, root⟩ := fault
  induction contexts with
  | nil => exact tells_root root
  | cons context contexts ih => exact .next (.within context _) ih

-- ---------------------------------------------------------------------------
-- Error objects in a chain
-- ---------------------------------------------------------------------------

/-- The error object of a failure: of the contexts from the outermost on, and of the root behind them, the
first one that is not plain. -/
inductive Chooses : HandlerFault → ErrorObject → Prop
  | context {outer inner : List Context} {root : Root} {e : ErrorObject}
    (houter : ∀ c ∈ outer, ∃ text, c = .plain text) : Chooses ⟨outer ++ .object e :: inner, root⟩ e
  | root {contexts : List Context} {e : ErrorObject}
    (hcontexts : ∀ c ∈ contexts, ∃ text, c = .plain text) : Chooses ⟨contexts, .object e⟩ e

/-- A context that is no error object is plain. -/
theorem Context.error?_eq_none_iff {c : Context} : c.error? = none ↔ ∃ text, c = .plain text := by
  cases c <;> simp [Context.error?]

/-- Among plain contexts there is no error object. -/
theorem findSome?_of_plain {contexts : List Context} (h : ∀ c ∈ contexts, ∃ text, c = .plain text) :
    contexts.findSome? Context.error? = none :=
  List.findSome?_eq_none_iff.mpr fun c hc => Context.error?_eq_none_iff.mpr (h c hc)

/-- **The error object** that is chosen is the one that is found. -/
theorem chooses_iff {fault : HandlerFault} {e : ErrorObject} :
    Chooses fault e ↔ fault.error? = some e := by
  obtain ⟨contexts, root⟩ := fault
  constructor
  · rintro (houter | hcontexts)
    · simp [HandlerFault.error?, findSome?_of_plain houter, List.findSome?_cons, Context.error?]
    · simp [HandlerFault.error?, findSome?_of_plain hcontexts, Root.error?]
  · intro h
    rw [HandlerFault.error?, Option.or_eq_some_iff] at h
    rcases h with hcontext | ⟨hnone, hroot⟩
    · obtain ⟨outer, c, inner, rfl, hc, houter⟩ := List.findSome?_eq_some_iff.mp hcontext
      cases c with
      | plain text => cases hc
      | object error =>
        cases hc
        exact .context fun c hc => Context.error?_eq_none_iff.mp (houter c hc)
    -- no context has an error object, so that the root has it
    · have hplain := List.findSome?_eq_none_iff.mp hnone
      cases root with
      | plain | call => cases hroot
      | object error =>
        cases hroot
        exact .root fun c hc => Context.error?_eq_none_iff.mp (hplain c hc)

/-- Plain contexts between others do not change what is found. -/
theorem error?_insert (outer inner : List Context) (texts : List String) (root : Root) :
    HandlerFault.error? ⟨outer ++ texts.map .plain ++ inner, root⟩ =
      HandlerFault.error? ⟨outer ++ inner, root⟩ := by
  have hplain : (texts.map Context.plain).findSome? Context.error? = none := by
    refine findSome?_of_plain fun c hc => ?_
    obtain ⟨text, -, rfl⟩ := List.mem_map.mp hc
    exact ⟨text, rfl⟩
  simp only [HandlerFault.error?, List.findSome?_append, hplain, Option.or_none]

-- ---------------------------------------------------------------------------
-- What is told
-- ---------------------------------------------------------------------------

/-- What the other side is told of a failure. -/
inductive Reports (fault : HandlerFault) : ErrorObject → Prop
  | chosen {e : ErrorObject} (h : Chooses fault e) : Reports fault e
  | told {words : List String} (hnone : ∀ e, ¬ Chooses fault e) (hwords : Tells fault.link words) :
    Reports fault { code := -1, message := ": ".intercalate words, data := none }

/-- What is told is right. -/
theorem reports_ofHandlerFault (fault : HandlerFault) : Reports fault (.ofHandlerFault fault) := by
  cases h : fault.error? with
  | some e =>
    rw [ErrorObject.ofHandlerFault, h]
    exact .chosen (chooses_iff.mpr h)
  | none =>
    rw [ErrorObject.ofHandlerFault, h]
    refine .told (fun e he => ?_) (tells_chain fault)
    rw [chooses_iff, h] at he
    cases he

/-- A failure is told in one way only. -/
theorem Reports.unique {fault : HandlerFault} {e e' : ErrorObject} (h : Reports fault e)
    (h' : Reports fault e') : e = e' := by
  cases h with
  | chosen h =>
    cases h' with
    | chosen h' => exact Option.some.inj ((chooses_iff.mp h).symm.trans (chooses_iff.mp h'))
    | told hnone' => exact absurd h (hnone' e)
  | told hnone hwords =>
    cases h' with
    | chosen h' => exact absurd h' (hnone e')
    | told _ hwords' => rw [hwords.unique hwords']

/-- **What is told of a failure** is right, and nothing else is. -/
theorem ofHandlerFault_eq_iff {fault : HandlerFault} {e : ErrorObject} :
    ErrorObject.ofHandlerFault fault = e ↔ Reports fault e := by
  constructor
  · rintro rfl
    exact reports_ofHandlerFault fault
  · intro h
    exact (reports_ofHandlerFault fault).unique h

/-- **Contexts hide no error object.** Of a failure the outermost error object is told as it is, and if it has
none, the words of its chain under the code of handlers that chose none. So plain contexts change nothing
where there is an error object, wherever they are put. -/
theorem context_hides_nothing :
    (∀ (fault : HandlerFault) (e : ErrorObject),
      ErrorObject.ofHandlerFault fault = e ↔ Reports fault e) ∧
      ∀ (outer inner : List Context) (texts : List String) (root : Root) (e : ErrorObject),
        Chooses ⟨outer ++ inner, root⟩ e →
          ErrorObject.ofHandlerFault ⟨outer ++ texts.map .plain ++ inner, root⟩ = e := by
  refine ⟨fun fault e => ofHandlerFault_eq_iff, ?_⟩
  intro outer inner texts root e h
  have herror := chooses_iff.mp h
  rw [← error?_insert outer inner texts root] at herror
  exact ofHandlerFault_eq_iff.mpr (.chosen (chooses_iff.mpr herror))

/-- An error object between plain contexts, before a root that is one as well. -/
theorem context_hides_nothing_between :
    let e : ErrorObject := { code := 7, message := "busy", data := some .null }
    let inner : List Context := [.object e, .plain "while opening"]
    let root : Root := .object { code := 8, message := "gone" }
    Chooses ⟨[] ++ inner, root⟩ e ∧
      ErrorObject.ofHandlerFault ⟨[] ++ ["outside", "around"].map .plain ++ inner, root⟩ = e := by
  intro e inner root
  have h : Chooses ⟨[] ++ inner, root⟩ e := @Chooses.context [] [.plain "while opening"] root e nofun
  exact ⟨h, context_hides_nothing.2 [] inner ["outside", "around"] root e h⟩

/-- A cause is told twice: in the words of the failure that it caused, and in its own. -/
example : (ErrorObject.ofHandlerFault
    { contexts := [.plain "asking"], root := .call (.frame (.stream "reset")) }).message =
      "asking: transport I/O: reset: reset" := rfl

end EditorLink.Message
