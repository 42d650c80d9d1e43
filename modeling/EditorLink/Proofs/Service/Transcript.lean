import EditorLink.Proofs.Service.CompilationInfo
import EditorLink.Proofs.Session.Tellings

/-!
# EditorLink — what the language service says

For each message the service says a few things in a fixed order, whatever else it does at the same time. What it
says is written down here frame by frame, with the texts, the numbers and the members that an editor finds in it,
and apart from the tasks of the service: a transcript of each call. Which params it takes, and which answers to its
question tell something, is said by grammars of values.

Two things are not known beforehand: the ticket of the question that the service may ask about a document, and what
comes of it. Both are taken from what whoever handles the message was told, so that the transcript of a call goes
on behind the question only with the outcome for which its ticket was polled.

What is not said here is when: a transcript goes on as its task does, and between two of its frames others may be
queued. Only the line that tells of a call is said at once, before anything of later messages.

## Results

* `line`, `shown`, `capabilitiesShown`, `failureWords` — frames and texts, as the editor has them;
* `Findings` — what is said of the question, by what came of it;
* `Performance`, `Transcript` — what is said for a call, by what was told meanwhile;
* `Transcript.unique` — what was told leaves one transcript;
* `performance_of_utters` — the reaction to a call says this and nothing else;
* `Transcribed`, `transcripts_kept` — what is queued for a message is its transcript, whatever happens.
-/

namespace EditorLink.Service

open Correlation (Outcome)
open Message (CallFault ErrorObject Outgoing RequestId)
open Session (Config Deed Occurrence Plays Reaction Saying Scene Task Telling callOf? replyTo? saidOf toldOf)

-- ---------------------------------------------------------------------------
-- Frames and texts
-- ---------------------------------------------------------------------------

/-- A line in the log of the editor. -/
def line (text : String) : Outgoing :=
  .notification "window/logMessage"
    (.obj [("message", .str s!"[clang-languageservice] {text}"), ("type", .int 4)])

/-- A message that is shown to the user. -/
def shown (text : String) : Outgoing :=
  .notification "window/showMessage" (.obj [("message", .str text), ("type", .int 3)])

/-- The line that tells of a call. -/
def gotRequest (method : String) : Outgoing := line s!"Got request {method}"

/-- What the editor is told of the service at the start. -/
def capabilitiesShown : Json :=
  .obj [
    ("capabilities", .obj [
      ("completionProvider", .obj [
        ("resolveProvider", .bool true),
        ("triggerCharacters", .arr [.str ":", .str ".", .str ">"])]),
      ("definitionProvider", .bool true),
      ("referencesProvider", .bool true),
      ("workspaceSymbolProvider", .bool true)]),
    ("serverInfo", .obj [("name", .str "clang-languageservice"), ("version", .str "0.0.0")])]

/-- The answer to a call, if it was a request. -/
def answer (replyTo : Option RequestId) (outcome : Except ErrorObject Json) : List Outgoing :=
  (replyTo.map fun id => .response id outcome).toList

/-- The words for a question that failed. It fails in no other way than the first three. -/
def failureWords : CallFault → String
  | .closed => "connection closed"
  | .timedOut id after => s!"request {id} timed out after {after.text}"
  | .remote error => s!"remote error {error.code}: {error.message}"
  | fault => fault.message

/-- A line of the log is what the service tells the log. -/
theorem log_eq_line (text : String) : .notification logMethod (logParams text) = line text := by
  rfl

/-- A message that is shown is what the service tells the user. -/
theorem tell_eq_shown (text : String) : .notification showMethod (messageParams .info text) = shown text := by
  rfl

/-- The capabilities as they are written in a frame. -/
theorem capabilities_eq_shown : capabilities.toJson.normalize = capabilitiesShown := by
  rfl

/-- A question that failed is told in the words of its failure. -/
theorem failureWords_eq (fault : CallFault) : failureWords fault = fault.message := by
  cases fault <;> rfl

/-- The line that tells of a document that was opened. -/
def documentOpened (d : TextDocument) : Outgoing :=
  line s!"Opened '{d.uri}' ({d.languageId}, version {d.version}, {d.text.utf8ByteSize} bytes)"

-- ---------------------------------------------------------------------------
-- Transcripts
-- ---------------------------------------------------------------------------

/-- What is said of the question how a document is compiled, by what came of it. -/
inductive Findings (uri : String) : Outcome → List Outgoing → Prop
  | known {result : Json} {info : CompilationInfo} (h : GivesAnswer result (some info)) :
    Findings uri (.ok result)
      [line s!"Got compilation info for file '{uri}'",
        line s!"Compile command for '{uri}' is: {info.command}"]
  | nothing {result : Json} (h : GivesAnswer result none) : Findings uri (.ok result) []
  | unreadable {result : Json} {reason : Json.ShapeFault} (h : ∀ info?, ¬ GivesAnswer result info?)
    (hreason : CompilationInfoResult.shape result = .error reason) :
    Findings uri (.ok result)
      [line s!"Compilation info lookup failed: deserializing result: {reason.message}"]
  | failed (fault : CallFault) :
    Findings uri (.error fault) [line s!"Compilation info lookup failed: {failureWords fault}"]

/-- What is said for a call behind the line that tells of it, by what was told meanwhile. -/
inductive Performance (options : Options) (replyTo : Option RequestId) (method : String) (params : Json) :
    List Telling → List Outgoing → Prop
  | initialized {p : InitializeParams} (hmethod : method = "initialize")
    (hparams : GivesInitialize params p) :
    Performance options replyTo method params []
      ([line s!"Initialized clang language server with {capabilitiesShown.write}",
        shown "Hello, from clang-languageservice!"] ++ answer replyTo (.ok capabilitiesShown))
  | misinitialized {reason : Json.ShapeFault} (hmethod : method = "initialize")
    (hparams : ∀ p, ¬ GivesInitialize params p) (hreason : InitializeParams.shape params = .error reason) :
    Performance options replyTo method params []
      (answer replyTo (.error { code := -32602, message := s!"Invalid params: {reason.message}" }))
  | opened {d : TextDocument} (hmethod : method = "textDocument/didOpen")
    (hparams : GivesOpened params ⟨d⟩) (hquery : options.queryCompilationInfo = false) :
    Performance options replyTo method params [] ([documentOpened d] ++ answer replyTo (.ok .null))
  /-- The question is asked with a ticket, and its answer is waited for. -/
  | asked {d : TextDocument} {τ : Telling} {found : List Outgoing} (hmethod : method = "textDocument/didOpen")
    (hparams : GivesOpened params ⟨d⟩) (hquery : options.queryCompilationInfo = true)
    (hfound : Findings d.uri τ.outcome found) :
    Performance options replyTo method params [τ]
      ([documentOpened d,
        .request τ.ticket.id options.compilationInfoMethod (.obj [("uri", .str d.uri)])] ++ found ++
          answer replyTo (.ok .null))
  | misopened {reason : Json.ShapeFault} (hmethod : method = "textDocument/didOpen")
    (hparams : ∀ p, ¬ GivesOpened params p) (hreason : DidOpenParams.shape params = .error reason) :
    Performance options replyTo method params []
      (answer replyTo (.error { code := -32602, message := s!"Invalid params: {reason.message}" }))
  | shutdown (hmethod : method = "shutdown") :
    Performance options replyTo method params [] (answer replyTo (.ok .null))
  | silent (hmethod : method = "initialized" ∨ method = "exit") :
    Performance options replyTo method params [] []
  | unknown (hmethod : method ∉ ["initialize", "initialized", "textDocument/didOpen", "shutdown", "exit"]) :
    Performance options replyTo method params []
      (answer replyTo (.error { code := -32601, message := s!"Method not found: {method}" }))

/-- **What is said for a call**, by what was told meanwhile. -/
def Transcript (options : Options) (replyTo : Option RequestId) (method : String) (params : Json)
    (told : List Telling) (said : List Outgoing) : Prop :=
  ∃ rest, Performance options replyTo method params told rest ∧
    said = (if options.logRequests then [gotRequest method] else []) ++ rest

section Unique

variable {options : Options} {replyTo : Option RequestId} {method : String} {params : Json}
  {told : List Telling} {said said' : List Outgoing}

/-- A value tells one thing, or that nothing is known. -/
theorem GivesAnswer.unique {v : Json} {info? info?' : Option CompilationInfo} (h : GivesAnswer v info?)
    (h' : GivesAnswer v info?') : info? = info?' := by
  rw [← CompilationInfoResult.shape_eq_ok_iff] at h h'
  rw [h] at h'
  cases h'
  rfl

/-- A value gives one document. -/
theorem GivesOpened.unique {v : Json} {p p' : DidOpenParams} (h : GivesOpened v p) (h' : GivesOpened v p') :
    p = p' := by
  rw [← DidOpenParams.shape_eq_ok_iff] at h h'
  rw [h] at h'
  exact Except.ok.inj h'

/-- What came of the question leaves one thing to say of it. -/
theorem Findings.unique {uri : String} {outcome : Outcome} (h : Findings uri outcome said)
    (h' : Findings uri outcome said') : said = said' := by
  cases h with
  | failed fault =>
    cases h'
    rfl
  | known h =>
    cases h' with
    | known h' =>
      cases h.unique h'
      rfl
    | nothing h' => cases h.unique h'
    | unreadable h' => exact absurd h (h' _)
  | nothing h =>
    cases h' with
    | known h' => cases h.unique h'
    | nothing h' => rfl
    | unreadable h' => exact absurd h (h' _)
  | unreadable h hreason =>
    cases h' with
    | known h' => exact absurd h' (h _)
    | nothing h' => exact absurd h' (h _)
    | unreadable h' hreason' =>
      rw [hreason] at hreason'
      cases hreason'
      rfl

/-- **One performance**: a call, and what was told of it, leave one thing to say. -/
theorem Performance.unique (h : Performance options replyTo method params told said)
    (h' : Performance options replyTo method params told said') : said = said' := by
  cases h <;> cases h'
  case opened.opened hmethod hparams hquery d' hmethod' hparams' hquery' =>
    cases hparams.unique hparams'
    rfl
  case asked.asked hmethod hparams hquery hfound d' found' hmethod' hparams' hquery' hfound' =>
    cases hparams.unique hparams'
    rw [hfound.unique hfound']
  -- the others are entries of different methods, of params that are taken and refused, or the same
  all_goals simp_all

/-- **One transcript**: what was told of a call leaves nothing else to say. -/
theorem Transcript.unique (h : Transcript options replyTo method params told said)
    (h' : Transcript options replyTo method params told said') : said = said' := by
  obtain ⟨rest, hrest, rfl⟩ := h
  obtain ⟨rest', hrest', rfl⟩ := h'
  rw [hrest.unique hrest']

end Unique

-- ---------------------------------------------------------------------------
-- Programs of the service
-- ---------------------------------------------------------------------------

section Utters

variable {options : Options} {replyTo : Option RequestId} {told : List Telling} {said : List Outgoing}

/-- A task that writes a line of the log says that first. -/
theorem utters_log {text : String} {next : Task} (h : (log text next).Utters replyTo told said) :
    ∃ rest, next.Utters replyTo told rest ∧ said = line text :: rest := by
  cases h with
  | notify sent h => exact ⟨_, h, congrArg (· :: _) (log_eq_line text)⟩

/-- A task that tells the user something says that first. -/
theorem utters_tell {message : String} {next : Task}
    (h : (tell .info message next).Utters replyTo told said) :
    ∃ rest, next.Utters replyTo told rest ∧ said = shown message :: rest := by
  cases h with
  | notify sent h => exact ⟨_, h, congrArg (· :: _) (tell_eq_shown message)⟩

/-- Whoever finishes answers with the result, and is told nothing. -/
theorem utters_finish {result : Json} (h : (Task.finish result).Utters replyTo told said) :
    told = [] ∧ said = answer replyTo (.ok result) := by
  cases h
  cases replyTo <;> exact ⟨rfl, rfl⟩

/-- A failure with an error object answers with that. -/
theorem utters_fail {error : ErrorObject}
    (h : (Task.fail { root := .object error }).Utters replyTo told said) :
    told = [] ∧ said = answer replyTo (.error error) := by
  cases h
  cases replyTo <;> exact ⟨rfl, rfl⟩

/-- **The task of `initialize`**: two messages and the answer, or a refusal alone. -/
theorem performance_of_initialized {params : Json} (h : (initialized params).Utters replyTo told said) :
    Performance options replyTo "initialize" params told said := by
  rw [initialized] at h
  cases hshape : InitializeParams.shape params with
  | error fault =>
    simp only [hshape] at h
    obtain ⟨rfl, rfl⟩ := utters_fail h
    refine .misinitialized rfl ?_ hshape
    intro p hp
    rw [InitializeParams.shape_eq_ok_iff.mpr hp] at hshape
    cases hshape
  | ok p =>
    simp only [hshape, capabilities_eq_shown] at h
    obtain ⟨behind, htell, rfl⟩ := utters_log h
    obtain ⟨last, hfinish, rfl⟩ := utters_tell htell
    obtain ⟨rfl, rfl⟩ := utters_finish hfinish
    exact .initialized rfl (InitializeParams.shape_eq_ok_iff.mp hshape)

/-- The question how a document is compiled: it is asked with a ticket, and what is said of it follows from what came
of that. -/
theorem findings_of_queryInfo {method uri : String} {result : Json}
    (h : (queryInfo method uri (.finish result)).Utters replyTo told said) :
    ∃ τ found, told = [τ] ∧ Findings uri τ.outcome found ∧
      said = .request τ.ticket.id method (.obj [("uri", .str uri)]) :: found ++ answer replyTo (.ok result) := by
  cases h with
  | @ask _ _ _ told rest τ h =>
    have hfails : ∀ fault, τ.outcome.bind readInfo = .error fault →
        told = [] ∧ rest = [line s!"Compilation info lookup failed: {fault.message}"] ++
          answer replyTo (.ok result) := by
      intro fault hfault
      simp only [hfault] at h
      obtain ⟨last, hfinish, rfl⟩ := utters_log h
      obtain ⟨rfl, rfl⟩ := utters_finish hfinish
      exact ⟨rfl, rfl⟩
    cases houtcome : τ.outcome with
    | error fault =>
      obtain ⟨rfl, rfl⟩ := hfails fault (by rw [houtcome]; rfl)
      rw [← failureWords_eq]
      exact ⟨τ, _, rfl, houtcome ▸ .failed fault, rfl⟩
    | ok value =>
      by_cases hanswer : ∃ info?, GivesAnswer value info?
      · obtain ⟨info?, hinfo⟩ := hanswer
        have hread : τ.outcome.bind readInfo = .ok ⟨info?⟩ := by
          rw [houtcome]
          exact readInfo_of_answer hinfo
        simp only [hread] at h
        cases info? with
        | none =>
          obtain ⟨rfl, rfl⟩ := utters_finish h
          exact ⟨τ, [], rfl, houtcome ▸ .nothing hinfo, rfl⟩
        | some info =>
          obtain ⟨behind, hcommand, rfl⟩ := utters_log h
          obtain ⟨last, hfinish, rfl⟩ := utters_log hcommand
          obtain ⟨rfl, rfl⟩ := utters_finish hfinish
          refine ⟨τ, [_, _], rfl, ?_, rfl⟩
          rw [houtcome]
          exact .known hinfo
      · rw [not_exists] at hanswer
        obtain ⟨reason, hreason, hread⟩ := readInfo_of_no_answer hanswer
        obtain ⟨rfl, rfl⟩ := hfails _ (by rw [houtcome]; exact hread)
        exact ⟨τ, _, rfl, houtcome ▸ .unreadable hanswer hreason, rfl⟩

/-- **The task of `textDocument/didOpen`**, with its question or without. -/
theorem performance_of_opened {params : Json}
    (h : (opened params
      (if options.queryCompilationInfo then some options.compilationInfoMethod else none)).Utters
        replyTo told said) :
    Performance options replyTo "textDocument/didOpen" params told said := by
  rw [opened] at h
  cases hshape : DidOpenParams.shape params with
  | error fault =>
    simp only [hshape] at h
    obtain ⟨rfl, rfl⟩ := utters_fail h
    refine .misopened rfl ?_ hshape
    intro p hp
    rw [DidOpenParams.shape_eq_ok_iff.mpr hp] at hshape
    cases hshape
  | ok p =>
    have hparams := DidOpenParams.shape_eq_ok_iff.mp hshape
    simp only [hshape] at h
    obtain ⟨behind, hquery, rfl⟩ := utters_log h
    cases hask : options.queryCompilationInfo with
    | true =>
      rw [hask] at hquery
      obtain ⟨τ, found, rfl, hfound, rfl⟩ := findings_of_queryInfo hquery
      exact .asked rfl hparams hask hfound
    | false =>
      rw [hask] at hquery
      obtain ⟨rfl, rfl⟩ := utters_finish hquery
      exact .opened rfl hparams hask

/-- **The reaction to a call** says what the service says for it, and nothing else. -/
theorem performance_of_utters {method : String} {params : Json}
    (h : (reaction options method params).Utters replyTo told said) :
    Performance options replyTo method params told said := by
  have hsilent : Reaction.silent.Utters replyTo told said → told = [] ∧ said = [] := by
    intro hsilent
    cases hsilent
    cases replyTo <;> exact ⟨rfl, rfl⟩
  unfold reaction at h
  split at h
  · cases h with
    | start h => exact performance_of_initialized h
  · obtain ⟨rfl, rfl⟩ := hsilent h
    exact .silent (.inl rfl)
  · cases h with
    | start h => exact performance_of_opened h
  · cases h with
    | start h =>
      obtain ⟨rfl, rfl⟩ := utters_finish h
      exact .shutdown rfl
  · cases h with
    | close h =>
      obtain ⟨rfl, rfl⟩ := hsilent h
      exact .silent (.inr rfl)
  · cases h with
    | start h =>
      obtain ⟨rfl, rfl⟩ := utters_fail h
      exact .unknown (by simp_all)

/-- **A call**: the line that tells of it, if calls are told of, and then its performance. -/
theorem transcript_of_utters {method : String} {params : Json}
    (h : (logged options method (reaction options method params)).Utters replyTo told said) :
    Transcript options replyTo method params told said := by
  rw [logged] at h
  cases hlog : options.logRequests with
  | true =>
    rw [hlog, if_pos rfl] at h
    cases h with
    | notify sent h =>
      refine ⟨_, performance_of_utters h, ?_⟩
      rw [hlog]
      exact congrArg (· :: _) (log_eq_line _)
  | false =>
    rw [hlog, if_neg Bool.false_ne_true] at h
    refine ⟨_, performance_of_utters h, ?_⟩
    rw [hlog]
    rfl

end Utters

-- ---------------------------------------------------------------------------
-- In a session
-- ---------------------------------------------------------------------------

/-- What is queued for a message is its transcript, by what was told of the question that was asked for it. As long
as somebody handles the message it is the first of that, whatever is told yet. -/
structure Transcribed (options : Options) (sc : Scene Bool) (o : Occurrence) (method : String) (params : Json) :
    Prop where
  underway : ∀ outcome, ∃ yet rest, (∀ τ ∈ yet, τ.outcome = outcome) ∧
    Transcript options (replyTo? o.value) method params (toldOf o.number sc.told ++ yet)
      (saidOf o.number sc.entered ++ rest)
  done : (∀ t ∈ sc.atWork, t.occurrence ≠ o) →
    Transcript options (replyTo? o.value) method params (toldOf o.number sc.told) (saidOf o.number sc.entered)

variable {options : Options} {config : Config} {memory : Bool} {holds : Scene Bool → Prop} {sc : Scene Bool}

/-- What the service remembers does not matter to its reactions. -/
theorem reaction_of_call {o : Occurrence} (ho : o ∈ sc.state.occurrences (handler options) memory)
    {method : String} {params : Json} (hcall : callOf? o.value = some (method, params)) :
    o.reaction = some (logged options method (reaction options method params)) := by
  obtain ⟨remembered, hreaction⟩ := Session.Intake.exists_reaction ho
  rw [hreaction, Session.Handler.meet]
  rw [Session.callOf?] at hcall
  cases hclass : Message.classify o.value with
  | error malformed =>
    rw [hclass] at hcall
    cases hcall
  | ok incoming =>
    rw [hclass] at hcall
    cases incoming <;> cases hcall <;> rfl

/-- All that is said for a message is queued. -/
theorem saidOf_entered (h : Plays (handler options) holds (Scene.create config memory) sc)
    (hwrites : sc.state.writer.isBroken = false) (n : Nat) : saidOf n sc.said = saidOf n sc.entered := by
  have hlate : saidOf n (sc.said.drop sc.state.queued.length) = [] := by
    apply Session.saidOf_eq_nil
    intro m hm
    rw [Session.entered_plays h hwrites m hm]
    rfl
  rw [← sc.entered_append, Session.saidOf_append, hlate, List.append_nil]

/-- What is queued for one call, from what was said for it and told meanwhile. -/
theorem transcribed_of_call (h : Plays (handler options) holds (Scene.create config memory) sc)
    (hwrites : sc.state.writer.isBroken = false) {o : Occurrence}
    (ho : o ∈ sc.state.occurrences (handler options) memory) {method : String} {params : Json}
    (hcall : callOf? o.value = some (method, params)) : Transcribed options sc o method params := by
  have hspoken := Session.spoken_run (Plays.runs h)
  have hanswers := Session.Answers.run (Plays.runs h)
  have hreaction := reaction_of_call ho hcall
  have hsaid := saidOf_entered h hwrites o.number
  -- somebody handles the message, or it was handled
  rcases List.mem_append.mp (hanswers.once.mem_iff.mpr ho) with hwork | hdone
  · obtain ⟨t, ht, rfl⟩ := List.mem_map.mp hwork
    refine ⟨?_, fun hnobody => absurd rfl (hnobody t ht)⟩
    intro outcome
    obtain ⟨yet, rest, hrest, hyet⟩ : ∃ yet rest, t.stage.Utters t.replyTo yet rest ∧
        ∀ τ ∈ yet, τ.outcome = outcome := t.stage.exists_utters t.occurrence outcome
    have hutters := hspoken.underway t ht yet rest hrest _ hreaction
    rw [hsaid] at hutters
    exact ⟨yet, rest, hyet, transcript_of_utters hutters⟩
  · obtain ⟨e, he, rfl⟩ := List.mem_map.mp hdone
    have hutters := hspoken.done e he _ hreaction
    rw [hsaid] at hutters
    have hall := transcript_of_utters hutters
    refine ⟨?_, fun _ => hall⟩
    intro outcome
    refine ⟨[], [], List.forall_mem_nil _, ?_⟩
    rw [List.append_nil, List.append_nil]
    exact hall

/-- **The service keeps to its transcripts.** Whatever the options, whatever messages come in, in whatever order
tasks, writer and those outside take their steps, and whatever comes of the questions that are asked: as long as no
write fails, the frames that are queued for a call are those of its transcript, in this order and without any other.
What was told of a question is what came of it: at an earlier moment of the session its ticket was polled with that, and
then a response said so, the connection was gone, or the time was up. If calls are told of, then the line for a call
comes before all that is queued for later messages. -/
theorem transcripts_kept (h : Plays (handler options) holds (Scene.create config memory) sc)
    (hwrites : sc.state.writer.isBroken = false) :
    sc.entered.map Saying.frame = sc.state.queued ∧
      (∀ o ∈ sc.state.occurrences (handler options) memory, ∀ method params,
        callOf? o.value = some (method, params) → Transcribed options sc o method params) ∧
      (∀ τ ∈ sc.told, ∃ earlier : Scene Bool,
        Plays (handler options) holds (Scene.create config memory) earlier ∧
          Plays (handler options) holds earlier sc ∧ τ.Came config earlier.toWorld) ∧
      (options.logRequests = true → ∀ front s behind, sc.entered = front ++ s :: behind →
        ∀ later, s.origin = .message later →
          ∀ o ∈ sc.state.occurrences (handler options) memory, o.number < later.number →
            ∀ method params, callOf? o.value = some (method, params) →
              ⟨.message o, gotRequest method⟩ ∈ front) := by
  refine ⟨Session.Course.frames_entered (Session.whole_run (Plays.runs h)), ?_, Session.came_plays h, ?_⟩
  · exact fun o ho method params hcall => transcribed_of_call h hwrites ho hcall
  · intro hlog front s behind hsplit later hlater o ho hless method params hcall
    have hopening : o.opening? = some ⟨.message o, gotRequest method⟩ := by
      rw [Session.Occurrence.opening?, reaction_of_call ho hcall, logged, if_pos hlog, gotRequest, ← log_eq_line]
      rfl
    -- what is queued is the first of what is said
    have hsaid : sc.said = front ++ s :: (behind ++ sc.said.drop sc.state.queued.length) := by
      have happend := sc.entered_append
      rw [hsplit, List.append_assoc, List.cons_append] at happend
      exact happend.symm
    exact (Session.opened_plays h).order front s _ hsaid later hlater o ho hless _ hopening

/-- A service that reports all it can. -/
def talkative : Options := { queryCompilationInfo := true, logRequests := true }

/-- A document, as the editor opens it. -/
def openingParams : Json :=
  .obj [("textDocument",
    .obj [("languageId", .str "c"), ("text", .str ""), ("uri", .str "u"), ("version", .int 1)])]

/-- How it is compiled. -/
def compiledWith : Json :=
  .obj [("compilationInfo", .obj [("command", .str "cc"), ("directory", .str "/"), ("file", .str "u")])]

/-- A document is opened, another call comes, and then the answer to the question. -/
def openingStream : Bytes :=
  ([Message.request 1 "textDocument/didOpen" openingParams, Message.notification "shutdown" .null,
      Message.response (.number 0) (.ok compiledWith)] : List Json).flatMap Framing.encode

/-- The other call is told of while the question is not yet asked. -/
def openedAmidst : List Deed :=
  [.start, .arrive (.data openingStream), .read, .read, .read, .read, .read, .proceed 0, .proceed 0, .proceed 0,
    .read, .read, .proceed 1, .proceed 0, .proceed 0, .proceed 0, .proceed 0]

/-- Six frames for a document that is opened: the answer tells how it is compiled. -/
theorem transcripts_kept_opened :
    ∃ sc : Scene Bool,
      Plays (handler talkative) (fun _ => True) (Scene.create {} false) sc ∧
      sc.state.writer.isBroken = false ∧
      sc.entered.map Saying.frame = sc.state.queued ∧
      (∀ τ ∈ sc.told, ∃ earlier : Scene Bool,
        Plays (handler talkative) (fun _ => True) (Scene.create {} false) earlier ∧
          Plays (handler talkative) (fun _ => True) earlier sc ∧ τ.Came {} earlier.toWorld) ∧
      ∃ o ∈ sc.state.occurrences (handler talkative) false, ∃ params,
        callOf? o.value = some ("textDocument/didOpen", params) ∧
        (toldOf o.number sc.told).length = 1 ∧ (saidOf o.number sc.entered).length = 6 ∧
        Transcript talkative (replyTo? o.value) "textDocument/didOpen" params (toldOf o.number sc.told)
          (saidOf o.number sc.entered) := by
  have hplay : (Scene.play (handler talkative) (fun _ => true) openedAmidst (Scene.create {} false)).any
      (fun sc => !sc.state.writer.isBroken && sc.atWork.isEmpty &&
        (sc.state.occurrences (handler talkative) false).any fun o =>
          (saidOf o.number sc.entered).length == 6 &&
            ((callOf? o.value).any fun call => call.1 == "textDocument/didOpen") &&
            (toldOf o.number sc.told).length == 1) = true := by
    decide +kernel
  obtain ⟨sc, hscene, hfacts⟩ := (Option.any_eq_true _ _).mp hplay
  rw [Bool.and_eq_true, Bool.and_eq_true, Bool.not_eq_true', List.any_eq_true] at hfacts
  obtain ⟨⟨hwrites, hidle⟩, o, ho, hfacts⟩ := hfacts
  rw [Bool.and_eq_true, Bool.and_eq_true, beq_iff_eq, beq_iff_eq, Option.any_eq_true] at hfacts
  obtain ⟨⟨hsix, ⟨method, params⟩, hcall, hmethod⟩, htold⟩ := hfacts
  cases eq_of_beq hmethod
  have hplays : Plays (handler talkative) (fun _ => True) (Scene.create {} false) sc :=
    Session.plays_of_play (fun _ => trivial) hscene
  have hnobody : ∀ t ∈ sc.atWork, t.occurrence ≠ o := by
    rw [List.isEmpty_iff.mp hidle]
    exact fun _ ht => absurd ht List.not_mem_nil
  obtain ⟨hframes, htranscribed, hcame, -⟩ := transcripts_kept hplays hwrites
  exact ⟨sc, hplays, hwrites, hframes, hcame, o, ho, params, hcall, htold, hsix,
    (htranscribed o ho _ _ hcall).done hnobody⟩

end EditorLink.Service
