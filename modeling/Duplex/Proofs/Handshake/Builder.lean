import Duplex.Proofs.Handshake.Lookup
import Duplex.Proofs.Json.Object
import Mathlib.Data.List.Induction

/-!
What a handshake holds that was built call by call, and its JSON form. Each kind of call has its own
data: of the headers the last value under each name counts, of the protocols the last call, and all
extensions are kept. The JSON form may list the headers in any order and is read back as an equal
value.
-/

namespace Duplex.Handshake

inductive Call
  | header (name value : String)
  | requestedProtocols (protocols : List String)
  | protocol (name : String)
  | extension (name : String)
  deriving Repr, DecidableEq

namespace Call

def apply (h : Handshake) : Call → Handshake
  | .header name value => h.withHeader name value
  | .requestedProtocols protocols => h.withRequestedProtocols protocols
  | .protocol name => h.withProtocol name
  | .extension name => h.withExtension name

def header? : Call → Option (String × String)
  | .header name value => some (name, value)
  | _ => none

def requestedProtocols? : Call → Option (List String)
  | .requestedProtocols protocols => some protocols
  | _ => none

def protocol? : Call → Option String
  | .protocol name => some name
  | _ => none

def extension? : Call → Option String
  | .extension name => some name
  | _ => none

end Call

def built (uri : Uri) (calls : List Call) : Handshake := calls.foldl Call.apply { uri }

/-- The value of the last header that was added under some spelling of a name. -/
def lastHeader? (calls : List Call) (q : String) : Option String :=
  ((calls.filterMap Call.header?).filter fun e => IsSpelling e.1 q).getLast?.map Prod.snd

/-- The same handshake with its headers listed otherwise. -/
def listing (h : Handshake) (l : List (String × String)) : Handshake :=
  { h with headers := { h.headers with entries := l } }

section

variable (uri : Uri) (calls : List Call)

theorem built_snoc (c : Call) : built uri (calls ++ [c]) = c.apply (built uri calls) := by
  simp [built]

theorem uri_built : (built uri calls).uri = uri := by
  induction calls using List.reverseRecOn with
  | nil => rfl
  | append_singleton calls c ih =>
    rw [built_snoc]
    cases c <;> exact ih

theorem requestedProtocols_built : (built uri calls).requestedProtocols =
    (calls.filterMap Call.requestedProtocols?).getLast?.getD [] := by
  induction calls using List.reverseRecOn with
  | nil => rfl
  | append_singleton calls c ih =>
    rw [built_snoc, List.filterMap_append]
    cases c with
    | requestedProtocols protocols =>
      simp [Call.apply, withRequestedProtocols, Call.requestedProtocols?]
    | header | protocol | extension =>
      simp only [List.filterMap_cons, List.filterMap_nil, Call.requestedProtocols?, List.append_nil]
      exact ih

theorem protocol_built : (built uri calls).protocol =
    (calls.filterMap Call.protocol?).getLast? := by
  induction calls using List.reverseRecOn with
  | nil => rfl
  | append_singleton calls c ih =>
    rw [built_snoc, List.filterMap_append]
    cases c with
    | protocol name => simp [Call.apply, withProtocol, Call.protocol?]
    | header | requestedProtocols | extension =>
      simp only [List.filterMap_cons, List.filterMap_nil, Call.protocol?, List.append_nil]
      exact ih

theorem extensions_built : (built uri calls).extensions = calls.filterMap Call.extension? := by
  induction calls using List.reverseRecOn with
  | nil => rfl
  | append_singleton calls c ih =>
    rw [built_snoc, List.filterMap_append]
    cases c with
    | extension name => simp [Call.apply, withExtension, Call.extension?, ih]
    | header | requestedProtocols | protocol =>
      simp only [List.filterMap_cons, List.filterMap_nil, Call.extension?, List.append_nil]
      exact ih

theorem header_built (q : String) : (built uri calls).header q = lastHeader? calls q := by
  induction calls using List.reverseRecOn with
  | nil => rfl
  | append_singleton calls c ih =>
    rw [built_snoc, lastHeader?, List.filterMap_append, List.filter_append]
    cases c with
    | header name value =>
      simp only [Call.apply, withHeader, header, Headers.get?_put, lowerCase_eq_iff]
      by_cases spelled : IsSpelling name q
      · simp [Call.header?, spelled]
      · simp only [List.filterMap_cons, List.filterMap_nil, Call.header?, List.filter_cons, spelled,
          decide_false, Bool.false_eq_true, if_false, List.filter_nil, List.append_nil]
        exact ih
    | requestedProtocols | protocol | extension =>
      simp only [List.filterMap_cons, List.filterMap_nil, Call.header?, List.filter_nil,
        List.append_nil]
      exact ih

end

section

variable {h : Handshake}

theorem Call.isProper (c : Call) (proper : h.headers.IsProper) :
    (c.apply h).headers.IsProper := by
  cases c with
  | header => exact proper.put
  | requestedProtocols | protocol | extension => exact proper

theorem Call.mem_names (c : Call) {n : String} : n ∈ (c.apply h).headers.names ↔
    n ∈ h.headers.names ∨ ∃ e ∈ c.header?, n = lowerCase e.1 := by
  cases c with
  | header name value =>
    rw [Call.apply, withHeader, Headers.mem_names_put, or_comm]
    simp [Call.header?]
  | requestedProtocols | protocol | extension =>
    simp only [Call.header?, Option.not_mem_none, false_and, exists_false, or_false]
    exact Iff.rfl

theorem isProper_built (uri : Uri) (calls : List Call) : (built uri calls).headers.IsProper := by
  induction calls using List.reverseRecOn with
  | nil => exact List.nodup_nil
  | append_singleton calls c ih =>
    rw [built_snoc]
    exact c.isProper ih

theorem isLowered_built (uri : Uri) (calls : List Call) :
    ∀ n ∈ (built uri calls).headers.names, IsLowered n := by
  induction calls using List.reverseRecOn with
  | nil => simp [built, Headers.names]
  | append_singleton calls c ih =>
    intro n mem
    rw [built_snoc, c.mem_names] at mem
    obtain earlier | ⟨e, -, rfl⟩ := mem
    · exact ih n earlier
    · exact isLowered_lowerCase e.1

end

open Json

theorem finds_texts (l : List String) : Finds readStrings [writeList l] l := by
  have found := (finds_list (fun _ => ⟨_, rfl⟩) (finds_text "a string") l).flatten
  rwa [← listParts, flatten_listParts] at found

theorem finds_uri {u : Uri} (rereads : Uri.read u.text = .ok u) :
    Finds readUri [writeText u.text] u := by
  intro rest text delimits spaced
  simp only [readUri, bind, Except.bind, finds_text _ u.text rest text delimits spaced, rereads]

def writeProtocol (protocol : Option String) : List Char :=
  (protocol.map writeText).getD "null".toList

theorem finds_protocol (protocol : Option String) :
    Finds (readOption (readString "a string")) [writeProtocol protocol] protocol := by
  cases protocol with
  | none => exact finds_none _
  | some p => exact finds_some rfl (by decide) (finds_text "a string" p)

theorem writeHeaders_eq (l : List (String × String)) :
    writeHeaders l = writeObject (l.map fun e => (e.1, writeText e.2)) := by
  simp [writeHeaders, writeObject, joined, writeField, writeEntry, Function.comp_def]

theorem finds_map (l : List (String × String)) :
    Finds (readTextMap {} Headers.put) [writeHeaders l]
      (l.foldl (fun m e => m.put e.1 e.2) {}) := by
  have found := (finds_textMap Headers.put {} l).flatten
  rwa [← objectParts, flatten_objectParts, ← writeHeaders_eq] at found

section

variable {d : Draft}

theorem finds_headers (free : d.headers.isSome = false) (l : List (String × String)) :
    Finds (readField fields d "headers") [[':'], writeHeaders l]
      { d with headers := some (l.foldl (fun m e => m.put e.1 e.2) {}) } :=
  finds_field rfl free ((finds_map l).map fun m => { d with headers := some m })

theorem finds_requestedProtocols (free : d.requestedProtocols.isSome = false)
    (l : List String) : Finds (readField fields d "requested_protocols") [[':'], writeList l]
      { d with requestedProtocols := some l } :=
  finds_field rfl free ((finds_texts l).map fun l => { d with requestedProtocols := some l })

theorem finds_extensions (free : d.extensions.isSome = false) (l : List String) :
    Finds (readField fields d "extensions") [[':'], writeList l]
      { d with extensions := some l } :=
  finds_field rfl free ((finds_texts l).map fun l => { d with extensions := some l })

end

def written (h : Handshake) : List (String × List Char) := [
  ("uri", writeText h.uri.text), ("headers", writeHeaders h.headers.entries),
  ("requested_protocols", writeList h.requestedProtocols),
  ("protocol", writeProtocol h.protocol), ("extensions", writeList h.extensions)]

theorem isObject_toJson (h : Handshake) : IsObject h.written h.toJson := by
  have same : h.toJson = String.ofList (writeObject h.written) := by
    obtain ⟨uri, headers, requested, protocol, extensions⟩ := h
    cases protocol <;> rfl
  exact isObject_writeObject (by rw [same, String.toList_ofList])

theorem ofJson_toJson {h : Handshake} (proper : h.headers.IsProper)
    (rereads : Uri.read h.uri.text = .ok h.uri) :
    ∃ slots, ofJson h.toJson = .ok { h with headers := ⟨h.headers.entries, slots⟩ } := by
  have object := isObject_toJson h
  obtain ⟨uri, headers, requested, protocol, extensions⟩ := h
  let back : Headers := headers.entries.foldl (fun m e => m.put e.1 e.2) {}
  have entries : back.entries = headers.entries := by
    simpa using Headers.entries_foldl_put headers.entries {} proper
  let first : Draft := { uri := some uri }
  let second : Draft := { first with headers := some back }
  let third : Draft := { second with requestedProtocols := some requested }
  let fourth : Draft := { third with protocol := some protocol }
  let last : Draft := { fourth with extensions := some extensions }
  have findsUri : Finds (readField fields {} "uri") [[':'], writeText uri.text] first :=
    finds_field rfl rfl ((finds_uri rereads).map fun u => ({ uri := some u } : Draft))
  have findsProtocol : Finds (readField fields third "protocol") [[':'], writeProtocol protocol]
      fourth :=
    finds_field rfl rfl
      ((finds_protocol protocol).map fun p => { third with protocol := some p })
  have gathers : Gathers (readField fields) {} _ last :=
    .cons findsUri <| .cons (finds_headers rfl headers.entries) <|
      .cons (finds_requestedProtocols rfl requested) <| .cons findsProtocol <|
      .cons (finds_extensions rfl extensions) <| .nil last
  have made : last.finish = .ok ⟨uri, back, requested, protocol, extensions⟩ := rfl
  refine ⟨back.slots, ?_⟩
  rw [ofJson, readAll_of_isObject object gathers made, ← entries]

/-- A handshake that was built call by call finds under each name, in any spelling, the value that
was added last, and lists one entry for it; it holds the protocols of the last such call and all
extensions in order, whatever calls came in between. If its address is read back as the same one,
its JSON text, with the headers in any order, is read as an equal handshake that answers every
lookup alike. -/
theorem handshake_built (uri : Uri) (calls : List Call) :
    (∀ q, (built uri calls).header q = lastHeader? calls q) ∧
    (∀ q, (built uri calls).headers.entries.countP (fun e => IsSpelling e.1 q) =
      if (lastHeader? calls q).isSome then 1 else 0) ∧
    (built uri calls).uri = uri ∧
    (built uri calls).requestedProtocols =
      (calls.filterMap Call.requestedProtocols?).getLast?.getD [] ∧
    (built uri calls).protocol = (calls.filterMap Call.protocol?).getLast? ∧
    (built uri calls).extensions = calls.filterMap Call.extension? ∧
    (Uri.read uri.text = .ok uri → ∀ l, l.Perm (built uri calls).headers.entries →
      ∃ back, ofJson ((built uri calls).listing l).toJson = .ok back ∧
        (built uri calls).same back ∧ ∀ q, back.header q = (built uri calls).header q) := by
  have proper := isProper_built uri calls
  refine ⟨header_built uri calls, fun q => ?_, uri_built uri calls,
    requestedProtocols_built uri calls, protocol_built uri calls, extensions_built uri calls,
    fun rereads l perm => ?_⟩
  · rw [countP_isSpelling proper (isLowered_built uri calls) q, ← header_built uri calls q]
    rfl
  · obtain ⟨slots, read⟩ := ofJson_toJson (h := (built uri calls).listing l) (proper.of_perm perm)
      ((uri_built uri calls).symm ▸ rereads)
    refine ⟨_, read, ?_, fun q => proper.get?_of_perm perm (lowerCase q)⟩
    simpa [same, listing] using Headers.same_of_perm perm

/-- The second spelling of a name takes the place of the first, and the text lists the headers the
other way round, one of them with everything that has to be written as an escape. -/
theorem handshake_built_reordered :
    let uri : Uri := { scheme := "ws", authority := true, host := some (.name "localhost"),
                       port := some 8080, path := .segments ["echo"] }
    let calls : List Call := [.header "Sec-WebSocket-Key" "a", .extension "e1", .protocol "v1",
      .header "Origin" "\"\\\u0001\n\u007f😀", .extension "e2", .requestedProtocols ["v2", ""],
      .header "SEC-websocket-KEY" "b"]
    let h := built uri calls
    Uri.read uri.text = .ok uri ∧ h.headers.entries.reverse.Perm h.headers.entries ∧
    h.header "sec-WEBSOCKET-key" = some "b" ∧
    h.headers.entries.countP (fun e => IsSpelling e.1 "sec-websocket-key") = 1 ∧
    h.requestedProtocols = ["v2", ""] ∧ h.protocol = some "v1" ∧ h.extensions = ["e1", "e2"] ∧
    ∃ back, ofJson (h.listing h.headers.entries.reverse).toJson = .ok back ∧ h.same back ∧
      ∀ q, back.header q = h.header q := by
  intro uri calls h
  have rereads : Uri.read uri.text = .ok uri := by decide +kernel
  have perm : h.headers.entries.reverse.Perm h.headers.entries := List.reverse_perm _
  have last : lastHeader? calls "sec-WEBSOCKET-key" = some "b" := by decide +kernel
  have lowered : lastHeader? calls "sec-websocket-key" = some "b" := by decide +kernel
  obtain ⟨found, once, -, requested, protocol, extensions, read⟩ := handshake_built uri calls
  have single := once "sec-websocket-key"
  rw [lowered] at single
  exact ⟨rereads, perm, (found _).trans last, single, requested.trans rfl, protocol.trans rfl,
    extensions.trans rfl, read rereads _ perm⟩

end Duplex.Handshake
