import CppOptimizer.Ipc.FactsSummary
import CppOptimizer.Ipc.Session
import Mathlib.Data.List.Forall2

/-!
# CppOptimizer.Ipc.Credential

What the replies tell about the session credential of a client.

* `SameButToken expected f f'` — two facts that differ at most in the value of `agent_token`, where
  both values match the expected token or both do not.
* `formatFactsSummary_echoable` — the summary is a function of the facts that may be shown.
* `token_noninterference`      — requests that differ in this way get the same reply.
-/

namespace CppOptimizer
namespace Ipc

open Common

structure SameButToken (expectedToken : WideText) (fact fact' : IpcFact) : Prop where
  key : fact.key = fact'.key
  value : fact.key ≠ kFactsTokenKey → fact.value = fact'.value
  matched : fact.key = kFactsTokenKey →
    tokenMatches fact.value expectedToken = tokenMatches fact'.value expectedToken

/-! ## The summary -/

theorem appendEntries_echoable (facts : List IpcFact) (out : Bytes) :
    appendEntries (echoable facts) out = appendEntries facts out := by
  induction facts generalizing out with
  | nil => rfl
  | cons fact facts ih =>
    by_cases htoken : fact.key = kFactsTokenKey
    · have hskip : echoable (fact :: facts) = echoable facts := by simp [echoable, htoken]
      rw [hskip, ih]
      simp only [appendEntries, if_pos htoken]
    · have hkeep : echoable (fact :: facts) = fact :: echoable facts := by simp [echoable, htoken]
      rw [hkeep]
      simp only [appendEntries, if_neg htoken, ih]

theorem echoable_echoable (facts : List IpcFact) : echoable (echoable facts) = echoable facts := by
  rw [echoable, echoable, List.filter_filter]
  simp

/-- No length and no cut of the summary depends on what is never shown. -/
theorem formatFactsSummary_echoable (facts : List IpcFact) :
    formatFactsSummary (echoable facts) = formatFactsSummary facts := by
  rw [formatFactsSummary_eq, formatFactsSummary_eq, echoable_echoable, appendEntries_echoable]

section TwoRuns

variable {expectedToken : WideText} {facts facts' : List IpcFact}
  (h : List.Forall₂ (SameButToken expectedToken) facts facts')

include h

theorem echoable_eq_of_sameButToken : echoable facts = echoable facts' := by
  induction h with
  | nil => rfl
  | @cons fact fact' facts facts' hfact _ ih =>
    by_cases htoken : fact.key = kFactsTokenKey
    · have htoken' : fact'.key = kFactsTokenKey := hfact.key.symm.trans htoken
      have hskip : echoable (fact :: facts) = echoable facts := by simp [echoable, htoken]
      have hskip' : echoable (fact' :: facts') = echoable facts' := by simp [echoable, htoken']
      rw [hskip, hskip', ih]
    · obtain ⟨key, value⟩ := fact
      obtain ⟨key', value'⟩ := fact'
      obtain rfl : key = key' := hfact.key
      obtain rfl : value = value' := hfact.value htoken
      have hkeep : ∀ fs : List IpcFact, echoable (⟨key, value⟩ :: fs) = ⟨key, value⟩ :: echoable fs := by
        intro fs
        simp [echoable, htoken]
      rw [hkeep, hkeep, ih]

theorem summary_eq_of_sameButToken : formatFactsSummary facts = formatFactsSummary facts' := by
  rw [← formatFactsSummary_echoable facts, ← formatFactsSummary_echoable facts',
    echoable_eq_of_sameButToken h]

/-- The one bit that the handler reads of the token. -/
theorem matched_eq_of_sameButToken :
    (facts.any fun fact => fact.key == kFactsTokenKey && tokenMatches fact.value expectedToken) =
      facts'.any fun fact => fact.key == kFactsTokenKey && tokenMatches fact.value expectedToken := by
  induction h with
  | nil => rfl
  | @cons fact fact' facts facts' hfact _ ih =>
    rw [List.any_cons, List.any_cons, ih]
    by_cases htoken : fact.key = kFactsTokenKey
    · rw [← hfact.key, hfact.matched htoken]
    · have hother : (fact.key == kFactsTokenKey) = false := beq_eq_false_iff_ne.mpr htoken
      rw [← hfact.key, hother, Bool.false_and, Bool.false_and]

end TwoRuns

/-! ## The handler -/

/-- A snapshot whose facts are accepted. -/
structure AcceptedFacts (payload : Bytes) (facts : List IpcFact) : Prop where
  parsed : parseFactsV1 payload = .ok facts
  schema : validateFactsV1Schema facts = .ok ()

theorem defaultHandler_accepted {expectedToken : WideText} {request : IpcRequest}
    {facts : List IpcFact} (htype : request.type = .factsSnapshot)
    (h : AcceptedFacts request.payload facts) :
    defaultHandler expectedToken request =
      if expectedToken ≠ [] ∧
          ¬ facts.any fun fact => fact.key == kFactsTokenKey && tokenMatches fact.value expectedToken
      then .ok { type := .error, payload := [IpcErrorCode.authFailed.toByte] }
      else .ok { type := .ack, payload := formatFactsSummary facts } := by
  simp only [defaultHandler, htype, h.parsed, h.schema]

/-- Two snapshots that differ in the token alone, and whose tokens both match or both do not, get the
same reply and the same summary. -/
theorem token_noninterference {expectedToken : WideText} {payload payload' : Bytes}
    {facts facts' : List IpcFact} (haccepted : AcceptedFacts payload facts)
    (haccepted' : AcceptedFacts payload' facts')
    (h : List.Forall₂ (SameButToken expectedToken) facts facts') :
    formatFactsSummary facts = formatFactsSummary facts' ∧
      ∀ request : IpcRequest, request.type = .factsSnapshot →
        defaultHandler expectedToken { request with payload := payload } =
          defaultHandler expectedToken { request with payload := payload' } := by
  refine ⟨summary_eq_of_sameButToken h, fun request htype => ?_⟩
  rw [@defaultHandler_accepted expectedToken { request with payload := payload } facts htype haccepted,
    @defaultHandler_accepted expectedToken { request with payload := payload' } facts' htype haccepted',
    matched_eq_of_sameButToken h, summary_eq_of_sameButToken h]

/-- Two tokens are refused alike where another is expected, and acknowledged alike where none is. -/
theorem token_noninterference_two_tokens :
    let payload := ascii "CPOPFACTS/1\nagent_token=abc\nobserver=x"
    let payload' := ascii "CPOPFACTS/1\nagent_token=longer\nobserver=x"
    defaultHandler [0x7A] { type := .factsSnapshot, payload := payload } =
        .ok { type := .error, payload := [IpcErrorCode.authFailed.toByte] } ∧
      defaultHandler [0x7A] { type := .factsSnapshot, payload := payload' } =
        .ok { type := .error, payload := [IpcErrorCode.authFailed.toByte] } ∧
      defaultHandler [] { type := .factsSnapshot, payload := payload } =
        .ok { type := .ack, payload := ascii "facts ok (1): observer=x" } ∧
      defaultHandler [] { type := .factsSnapshot, payload := payload' } =
        .ok { type := .ack, payload := ascii "facts ok (1): observer=x" } := by
  intro payload payload'
  have haccepted : AcceptedFacts payload
      [⟨kFactsTokenKey, ascii "abc"⟩, ⟨ascii "observer", ascii "x"⟩] :=
    ⟨by decide +kernel, by decide +kernel⟩
  have haccepted' : AcceptedFacts payload'
      [⟨kFactsTokenKey, ascii "longer"⟩, ⟨ascii "observer", ascii "x"⟩] :=
    ⟨by decide +kernel, by decide +kernel⟩
  have hsame : ∀ expectedToken : WideText,
      tokenMatches (ascii "abc") expectedToken = tokenMatches (ascii "longer") expectedToken →
      List.Forall₂ (SameButToken expectedToken)
        [⟨kFactsTokenKey, ascii "abc"⟩, ⟨ascii "observer", ascii "x"⟩]
        [⟨kFactsTokenKey, ascii "longer"⟩, ⟨ascii "observer", ascii "x"⟩] := by
    intro expectedToken hmatch
    exact .cons ⟨rfl, fun hne => absurd rfl hne, fun _ => hmatch⟩
      (.cons ⟨rfl, fun _ => rfl, fun _ => rfl⟩ .nil)
  have hrefused : defaultHandler [0x7A] { type := .factsSnapshot, payload := payload } =
      .ok { type := .error, payload := [IpcErrorCode.authFailed.toByte] } := by decide +kernel
  have hacknowledged : defaultHandler [] { type := .factsSnapshot, payload := payload } =
      .ok { type := .ack, payload := ascii "facts ok (1): observer=x" } := by decide +kernel
  refine ⟨hrefused, ?_, hacknowledged, ?_⟩
  · rw [← hrefused]
    exact ((token_noninterference haccepted haccepted' (hsame [0x7A] (by decide))).2
      { type := .factsSnapshot } rfl).symm
  · rw [← hacknowledged]
    exact ((token_noninterference haccepted haccepted' (hsame [] (by decide))).2
      { type := .factsSnapshot } rfl).symm

end Ipc
end CppOptimizer
