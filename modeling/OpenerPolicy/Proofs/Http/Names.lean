/-
  File:      OpenerPolicy/Proofs/Http/Names.lean
  Subject:   THE NAMES OF LINES ARE SENT IN LOWERCASE.

  However a handler spells the names of its lines, they are sent in lowercase, and so are the names
  of the lines that responses are made with. Taking out the lines of a name thus misses none.

  * `Response.Lowercased` -- the names of all lines are in lowercase;
  * `Lowercased.append`, `lowercased_endpoint` -- lines that are added; the response of a handler;
  * **`lowercased_routed`** -- every response that the routes give, and `lowercased_answered` -- that
    of an application which answers its own failures.
-/
import OpenerPolicy.Http.Application
import OpenerPolicy.Proofs.Http.Lines

namespace OpenerPolicy.Http

/-! ## 1. Responses -/

/-- The names of all lines are in lowercase. -/
def Response.Lowercased (r : Response) : Prop := ∀ line ∈ r.lines, headerKey line.1 = line.1

namespace Response

theorem lowercased_nil (status : Int) (body : List UInt8) : Lowercased ⟨status, [], body⟩ :=
  fun _ h => absurd h List.not_mem_nil

theorem lowercased_append {status : Int} {body : List UInt8} {first second : List (String × String)}
    (h₁ : Lowercased ⟨status, first, body⟩) (h₂ : Lowercased ⟨status, second, body⟩) :
    Lowercased ⟨status, first ++ second, body⟩ := by
  intro line hl
  rcases List.mem_append.1 hl with hl | hl
  · exact h₁ line hl
  · exact h₂ line hl

theorem lowercased_cons {status : Int} {body : List UInt8} {name value : String}
    {rest : List (String × String)} (hn : headerKey name = name)
    (h : Lowercased ⟨status, rest, body⟩) : Lowercased ⟨status, (name, value) :: rest, body⟩ := by
  intro line hl
  rcases List.mem_cons.1 hl with rfl | hl
  · exact hn
  · exact h line hl

/-- The names that responses are made with. -/
theorem headerKey_standard :
    headerKey "content-length" = "content-length" ∧ headerKey "content-type" = "content-type" ∧
      headerKey "allow" = "allow" ∧ headerKey "location" = "location" := by
  decide +kernel

theorem lowercased_plain (status : Int) (body : List UInt8) : (plain status body).Lowercased := by
  unfold plain lengthLines
  split
  · exact lowercased_cons headerKey_standard.1 (lowercased_nil status body)
  · exact lowercased_nil status body

theorem lowercased_text {status : Int} {content : String} {first : List (String × String)}
    (h : Lowercased ⟨status, first, Text.utf8Bytes content⟩) :
    (text status content first).Lowercased :=
  lowercased_append (lowercased_append h (lowercased_plain status (Text.utf8Bytes content)))
    (lowercased_cons headerKey_standard.2.1 (lowercased_nil _ _))

theorem lowercased_refusal (status : Int) (detail : Option String) :
    (refusal status detail).Lowercased := by
  unfold refusal
  split
  · exact lowercased_plain status []
  · exact lowercased_text (lowercased_nil _ _)

theorem lowercased_serverError : serverError.Lowercased := lowercased_text (lowercased_nil _ _)

theorem lowercased_typed {status : Int} {body : List UInt8} {mediaType : String} {r : Response}
    (h : typed status body mediaType = .ok r) : r.Lowercased := by
  obtain ⟨value, -, h⟩ := bind_eq_ok_iff.1 h
  obtain rfl := Except.ok.inj h
  exact lowercased_append (lowercased_plain status body)
    (lowercased_cons headerKey_standard.2.1 (lowercased_nil _ _))

theorem lowercased_methodNotAllowed {methods : List String} {r : Response}
    (h : methodNotAllowed methods = .ok r) : r.Lowercased := by
  obtain ⟨value, -, h⟩ := bind_eq_ok_iff.1 h
  obtain rfl := Except.ok.inj h
  exact lowercased_text (lowercased_cons headerKey_standard.2.2.1 (lowercased_nil _ _))

/-- A line that is added has a name in lowercase, however that was spelled. -/
theorem Lowercased.append {r r' : Response} {name value : String} (hr : r.Lowercased)
    (h : r.append name value = .ok r') : r'.Lowercased := by
  obtain ⟨-, rfl⟩ := (append_eq_ok_iff r r' name value).1 h
  exact lowercased_append hr (lowercased_cons (headerKey_headerKey name) (lowercased_nil _ _))

end Response

/-! ## 2. The answers of an application -/

theorem lowercased_redirection (address : String) : (redirection address).Lowercased :=
  Response.lowercased_cons Response.headerKey_standard.1
    (Response.lowercased_cons Response.headerKey_standard.2.2.2 (Response.lowercased_nil _ _))

/-- **Whatever lines a handler adds, their names are sent in lowercase.** -/
theorem lowercased_endpoint {e : Endpoint} {r : Response} (h : e.answer = .ok r) : r.Lowercased := by
  cases e with
  | raise f => cases h
  | refuse status detail =>
    obtain rfl := Except.ok.inj h
    exact Response.lowercased_refusal status detail
  | respond status body mediaType lines =>
    have hadd : ∀ (s : Response) (line : String × String) (s' : Response), s.Lowercased →
        s.append line.1 line.2 = .ok s' → s'.Lowercased := fun _ _ _ hs ha => hs.append ha
    cases mediaType with
    | none =>
      exact holds_of_foldlM hadd (Response.lowercased_plain status body) h
    | some mediaType =>
      obtain ⟨base, hbase, hlines⟩ := bind_eq_ok_iff.1 h
      exact holds_of_foldlM hadd (Response.lowercased_typed hbase) hlines

theorem lowercased_answer {incoming : Incoming} {resolution : Resolution} {r : Response}
    (h : (resolution.answer incoming).outcome = .ok r) : r.Lowercased := by
  induction resolution with
  | found route => exact lowercased_endpoint h
  | methodRefused route => exact Response.lowercased_methodNotAllowed h
  | redirected path =>
    obtain rfl := Except.ok.inj h
    exact lowercased_redirection _
  | mounted below ih => exact ih h
  | nothing =>
    obtain rfl := Except.ok.inj h
    exact Response.lowercased_text (Response.lowercased_nil _ _)

/-- **All names that the routes send are in lowercase.** -/
theorem lowercased_routed {sites : List Site} {incoming : Incoming} {r : Response}
    (h : (routed sites incoming).outcome = .ok r) : r.Lowercased := by
  unfold routed at h
  cases hr : resolve sites incoming.method incoming.path with
  | ok resolution =>
    rw [hr] at h
    exact lowercased_answer h
  | error f =>
    rw [hr] at h
    cases h

theorem lowercased_answered {next : Answer} {r : Response}
    (hnext : ∀ own, next.outcome = .ok own → own.Lowercased)
    (h : (answered next).outcome = .ok r) : r.Lowercased := by
  unfold answered at h
  split at h
  · exact hnext r h
  · obtain rfl := Except.ok.inj h
    exact Response.lowercased_serverError

end OpenerPolicy.Http
