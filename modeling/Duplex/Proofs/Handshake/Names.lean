import Duplex.Proofs.Handshake.Builder
import Duplex.Proofs.Json.Alongside

/-!
The spelling of stored header names. A call lowers the name it adds, but a text's headers are
stored under the keys the text has. Every way to get a handshake is followed here together with the
keys that came in with a text.
-/

namespace Duplex.Handshake

open Json

def beside {α σ : Type} (name : String) (read : Reader α) : Json.Field σ :=
  { name, fill := fun s cs => (read cs).map fun v => (s, v.2), filled := fun _ => false }

def readKeys : Reader (List String) := readTextMap [] fun keys key _ => keys ++ [key]

def keyFields : List (Json.Field (List String)) := [
  beside "uri" readUri,
  { name := "headers", fill := fun _ cs => readKeys cs, filled := fun _ => false },
  beside "requested_protocols" readStrings,
  beside "protocol" (readOption (readString "a string")),
  beside "extensions" readStrings]

def keysIn (text : String) : List String :=
  (readAll (readRecord "HandshakeInfo" keyFields [] .ok) text).toOption.getD []

def Lists (h : Headers) (keys : List String) : Prop := h.IsProper ∧ ∀ n, n ∈ h.names ↔ n ∈ keys

def Draft.Lists (d : Draft) (keys : List String) : Prop := ∀ h ∈ d.headers, Handshake.Lists h keys

theorem follows_beside {α : Type} (name : String) (read : Reader α) (put : Draft → α → Draft)
    (filled : Draft → Bool) (apart : ∀ d v, (put d v).headers = d.headers) :
    Field.Follows Draft.Lists
      { name, fill := fun d cs => (read cs).map fun v => (put d v.1, v.2), filled }
      (beside name read) where
  name := rfl
  defaulted := rfl
  free _ _ := rfl
  fill {d d' keys cs rest} lists taken := by
    obtain ⟨⟨v, behind⟩, found, same⟩ := map_eq_ok.mp taken
    cases same
    exact ⟨keys, map_eq_ok.mpr ⟨_, found, rfl⟩, by rw [Draft.Lists, apart]; exact lists⟩

theorem lists_put {h : Headers} {keys : List String} (name value : String)
    (lists : Lists h keys) : Lists (h.put name value) (keys ++ [name]) := by
  refine ⟨lists.1.put, fun n => ?_⟩
  rw [Headers.mem_names_put, lists.2, List.mem_append, List.mem_singleton, or_comm]

theorem follows_keyFields : List.Forall₂ (Field.Follows Draft.Lists) fields keyFields := by
  refine .cons ?_ (.cons ?_ (.cons ?_ (.cons ?_ (.cons ?_ .nil))))
  · exact follows_beside _ _ (fun d v => { d with uri := some v }) _ fun _ _ => rfl
  · refine ⟨rfl, rfl, fun _ _ => rfl, fun {d d' keys cs rest} _ taken => ?_⟩
    obtain ⟨⟨h, behind⟩, found, same⟩ := map_eq_ok.mp taken
    cases same
    have start : Lists {} [] := ⟨List.nodup_nil, fun _ => Iff.rfl⟩
    obtain ⟨keys, read, lists⟩ := readTextMap_follows start lists_put found
    exact ⟨keys, read, fun h' same => Option.some.inj same ▸ lists⟩
  · exact follows_beside _ _ (fun d v => { d with requestedProtocols := some v }) _ fun _ _ => rfl
  · exact follows_beside _ _ (fun d v => { d with protocol := some v }) _ fun _ _ => rfl
  · exact follows_beside _ _ (fun d v => { d with extensions := some v }) _ fun _ _ => rfl

theorem finish_headers {d : Draft} {h : Handshake} (made : d.finish = .ok h) :
    d.headers = some h.headers := by
  obtain ⟨uri, headers, requested, protocol, extensions⟩ := d
  cases uri <;> cases headers <;> cases requested <;> cases extensions <;> cases made
  rfl

theorem lists_ofJson {text : String} {h : Handshake} (accepted : ofJson text = .ok h) :
    Lists h.headers (keysIn text) := by
  obtain ⟨rest, read, ended⟩ := readAll_eq_ok.mp accepted
  have start : Draft.Lists {} [] := by simp [Draft.Lists]
  obtain ⟨d, keys, made, lists, keysRead⟩ := readRecord_follows follows_keyFields start read
  have same : keysIn text = keys := by
    rw [keysIn, readAll_eq_ok.mpr ⟨rest, keysRead, ended⟩]
    rfl
  exact same ▸ lists _ (finish_headers made)

/-- The handshakes that can be had, with the keys under which a text listed the headers. -/
inductive Obtained : List String → Handshake → Prop
  | new (uri : Uri) : Obtained [] { uri }
  | read {text : String} {h : Handshake} (accepted : ofJson text = .ok h) : Obtained (keysIn text) h
  | call {keys : List String} {h : Handshake} (obtained : Obtained keys h) (c : Call) :
    Obtained keys (c.apply h)

section

variable {keys : List String} {h : Handshake}

theorem Obtained.isProper (obtained : Obtained keys h) : h.headers.IsProper := by
  induction obtained with
  | new uri => exact List.nodup_nil
  | read accepted => exact (lists_ofJson accepted).1
  | call _ c ih => exact c.isProper ih

theorem Obtained.names (obtained : Obtained keys h) :
    (∀ n ∈ h.headers.names, n ∈ keys ∨ IsLowered n) ∧ ∀ k ∈ keys, k ∈ h.headers.names := by
  induction obtained with
  | new uri => simp [Headers.names]
  | read accepted =>
    have lists := (lists_ofJson accepted).2
    exact ⟨fun n mem => .inl ((lists n).mp mem), fun k mem => (lists k).mpr mem⟩
  | call _ c ih =>
    refine ⟨fun n mem => ?_, fun k mem => c.mem_names.mpr (.inl (ih.2 k mem))⟩
    obtain earlier | ⟨e, -, rfl⟩ := c.mem_names.mp mem
    · exact ih.1 n earlier
    · exact .inr (isLowered_lowerCase e.1)

theorem Obtained.isLowered_iff (obtained : Obtained keys h) :
    (∀ n ∈ h.headers.names, IsLowered n) ↔ ∀ k ∈ keys, IsLowered k := by
  obtain ⟨stored, kept⟩ := obtained.names
  exact ⟨fun lowered k mem => lowered k (kept k mem),
    fun lowered n mem => (stored n mem).elim (lowered n) id⟩

theorem Obtained.header_eq_iff (obtained : Obtained keys h) {n q v : String}
    (spelled : IsSpelling n q) : h.header q = some v ↔ (lowerCase n, v) ∈ h.headers.entries := by
  rw [header, ← lowerCase_eq_iff.mpr spelled, obtained.isProper.get?_eq_some_iff]

end

/-- The names of all stored headers are lowered exactly if the text had all its keys lowered; then
each stored header is found under every spelling of its name. In any case what is found under the
spellings of a stored name is what is stored under the lowered one. -/
theorem header_names_lowered {keys : List String} {h : Handshake} (obtained : Obtained keys h) :
    ((∀ n ∈ h.headers.names, IsLowered n) ↔ ∀ k ∈ keys, IsLowered k) ∧
    ((∀ k ∈ keys, IsLowered k) → ∀ n v, (n, v) ∈ h.headers.entries →
      ∀ q, IsSpelling n q → h.header q = some v) ∧
    ∀ n v, (n, v) ∈ h.headers.entries →
      ((∀ q, IsSpelling n q → h.header q = some v) ↔ (lowerCase n, v) ∈ h.headers.entries) := by
  refine ⟨obtained.isLowered_iff, fun lowered n v mem q spelled => ?_, fun n v _ => ?_⟩
  · have isLowered := obtained.isLowered_iff.mpr lowered n (List.mem_map_of_mem mem)
    rw [obtained.header_eq_iff spelled, lowerCase_eq_self_iff.mpr isLowered]
    exact mem
  · have itself : IsSpelling n n := lowerCase_eq_iff.mp rfl
    exact ⟨fun found => (obtained.header_eq_iff itself).mp (found n itself),
      fun mem q spelled => (obtained.header_eq_iff spelled).mpr mem⟩

/-- One name came in with a text and another one was added in capitals. -/
theorem header_names_lowered_added :
    let text := "\x7b\"uri\":\"ws://localhost/\",\"headers\":\x7b\"host\":\"x\"\x7d," ++
      "\"requested_protocols\":[],\"protocol\":null,\"extensions\":[]\x7d"
    ∃ h, ofJson text = .ok h ∧
      let k := h.withHeader "ORIGIN" "y"
      (∀ n ∈ k.headers.names, IsLowered n) ∧ k.header "HOST" = some "x" ∧
        k.header "Origin" = some "y" := by
  intro text
  let uri : Uri := { scheme := "ws", authority := true, host := some (.name "localhost"),
                     path := .segments [""] }
  have accepted : ofJson text = .ok { uri, headers := ⟨[("host", "x")], 4⟩ } := by decide +kernel
  have lowered : ∀ k ∈ keysIn text, IsLowered k := by decide +kernel
  have obtained := (Obtained.read accepted).call (.header "ORIGIN" "y")
  obtain ⟨all, found, -⟩ := header_names_lowered obtained
  exact ⟨_, accepted, all.mpr lowered,
    found lowered "host" "x" (by decide +kernel) "HOST" (by decide +kernel),
    found lowered "origin" "y" (by decide +kernel) "Origin" (by decide +kernel)⟩

/-- A key in capitals is stored as it is, and no spelling of it finds its value. -/
theorem header_names_lowered_kept :
    let text := "\x7b\"uri\":\"ws://localhost/\",\"headers\":\x7b\"Host\":\"x\"\x7d," ++
      "\"requested_protocols\":[],\"protocol\":null,\"extensions\":[]\x7d"
    let uri : Uri := { scheme := "ws", authority := true, host := some (.name "localhost"),
                       path := .segments [""] }
    let h : Handshake := { uri, headers := ⟨[("Host", "x")], 4⟩ }
    ofJson text = .ok h ∧ ("Host", "x") ∈ h.headers.entries ∧ ¬ IsLowered "Host" ∧
      ∀ q, IsSpelling "Host" q → h.header q = none := by
  intro text uri h
  have accepted : ofJson text = .ok h := by decide +kernel
  have missing : h.headers.get? (lowerCase "Host") = none := by decide +kernel
  refine ⟨accepted, by decide +kernel, by decide +kernel, fun q spelled => ?_⟩
  rw [header, ← lowerCase_eq_iff.mpr spelled]
  exact missing

end Duplex.Handshake
