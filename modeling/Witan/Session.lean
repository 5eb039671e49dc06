import Witan.Crates
import Witan.Maps.Lookup
import Witan.Text.Hex

open Std (ExtHashMap)
open bincode maps
open witan.types

namespace witan.session

/-- A completed handshake session. -/
structure SessionRecord where
  session_id : Str
  peer_addr : Str
  peer_node_id : Str
  peer_sig_public_key : ByteVec
  transcript_hash : Bytes32
  established_at_ms : UInt64
  is_active : Bool
  deriving DecidableEq

/-- In-memory store for active peer sessions, keyed by address. -/
structure SessionStore where
  sessions : ExtHashMap Str SessionRecord

namespace SessionStore

def new : SessionStore := ⟨∅⟩

def insert (self : SessionStore) (record : SessionRecord) : SessionStore :=
  ⟨self.sessions.insert record.peer_addr record⟩

def get (self : SessionStore) (peer_addr : Str) : Option SessionRecord := self.sessions[peer_addr]?

/-- Remove a session; the removed record is returned. -/
def remove (self : SessionStore) (peer_addr : Str) : Option SessionRecord × SessionStore :=
  (self.sessions[peer_addr]?, ⟨self.sessions.erase peer_addr⟩)

/-- Infos of all active peers, in the order of one iteration. -/
def active_peers (self : SessionStore) (visit : Visit self.sessions) : List PeerInfo :=
  (visit.keys.filterMap fun addr => self.sessions[addr]?).filterMap fun s =>
    if s.is_active then some ⟨s.peer_addr, s.peer_node_id, s.session_id, s.established_at_ms⟩ else none

def count (self : SessionStore) : Nat := self.sessions.size

@[simp] theorem get_insert_self (self : SessionStore) (record : SessionRecord) :
    (self.insert record).get record.peer_addr = some record :=
  ExtHashMap.getElem?_insert_self

theorem get_insert_of_ne (self : SessionStore) {record : SessionRecord} {peer_addr : Str}
    (h : record.peer_addr ≠ peer_addr) : (self.insert record).get peer_addr = self.get peer_addr :=
  getElem?_insert_of_ne self.sessions record h

/-- What is found after an insertion is the new record or was there before. -/
theorem get_insert_cases {self : SessionStore} {record session : SessionRecord} {peer_addr : Str}
    (h : (self.insert record).get peer_addr = some session) :
    record.peer_addr = peer_addr ∧ record = session ∨ self.get peer_addr = some session :=
  getElem?_insert_cases h

/-- A session found after a removal was there before. -/
theorem get_of_get_remove {self : SessionStore} {addr peer_addr : Str} {session : SessionRecord}
    (h : (self.remove addr).2.get peer_addr = some session) : self.get peer_addr = some session :=
  getElem?_of_getElem?_erase h

/-- Removing a session that is not there changes nothing. -/
theorem remove_of_get_eq_none {self : SessionStore} {peer_addr : Str} (h : self.get peer_addr = none) :
    (self.remove peer_addr).2 = self := by
  have herase : self.sessions.erase peer_addr = self.sessions := erase_eq_self h
  unfold remove
  rw [herase]

/-- Where every session is stored under its own address, the active peers are the
    addresses of the active sessions. -/
theorem active_peers_addrs (self : SessionStore) (visit : Visit self.sessions)
    (hstored : ∀ addr session, self.get addr = some session → session.peer_addr = addr) :
    (self.active_peers visit).map (·.addr) =
      visit.keys.filter fun addr => (self.get addr).any (·.is_active) := by
  unfold active_peers
  generalize visit.keys = keys
  induction keys with
  | nil => rfl
  | cons addr keys ih =>
    cases hget : self.get addr with
    | none =>
      have hfound : self.sessions[addr]? = none := hget
      rw [List.filterMap_cons_none hfound, List.filter_cons_of_neg (by simp [hget])]
      exact ih
    | some session =>
      have hfound : self.sessions[addr]? = some session := hget
      rw [List.filterMap_cons_some hfound]
      cases hactive : session.is_active with
      | false =>
        rw [List.filterMap_cons_none (by simp [hactive]), List.filter_cons_of_neg (by simp [hget, hactive])]
        exact ih
      | true =>
        rw [List.filterMap_cons_some (by rw [hactive]; rfl), List.filter_cons_of_pos (by simp [hget, hactive]),
          List.map_cons, ih, hstored addr session hget]

/-- Which addresses are active does not depend on the order. -/
theorem mem_active_peers_addrs {self : SessionStore} {visit : Visit self.sessions} {peer_addr : Str} :
    peer_addr ∈ (self.active_peers visit).map (·.addr) ↔
      ∃ addr session, self.get addr = some session ∧ session.is_active = true ∧ session.peer_addr = peer_addr := by
  unfold active_peers get
  simp only [List.mem_map, List.mem_filterMap, Option.ite_none_right_eq_some, Option.some.injEq]
  constructor
  · rintro ⟨_, ⟨session, ⟨addr, _, hget⟩, hactive, rfl⟩, haddr⟩
    exact ⟨addr, session, hget, hactive, haddr⟩
  · rintro ⟨addr, session, hget, hactive, haddr⟩
    have hvisited : addr ∈ visit.keys :=
      (visit.mem_iff addr).mpr (ExtHashMap.isSome_getElem?_iff_mem.mp (Option.isSome_of_eq_some hget))
    exact ⟨_, ⟨session, ⟨addr, hvisited, hget⟩, hactive, rfl⟩, haddr⟩

theorem get_remove_of_ne (self : SessionStore) {addr peer_addr : Str} (h : addr ≠ peer_addr) :
    (self.remove addr).2.get peer_addr = self.get peer_addr :=
  getElem?_erase_of_ne self.sessions h

end SessionStore

variable (crates : Crates)

/-- Derive the session id with HKDF-SHA256 over the secret, both nonces, the
    ciphertext and the server's node id. -/
def derive_session_id (shared_secret_32b client_nonce server_nonce : Bytes32) (kem_ciphertext_bytes : Bytes)
    (node_id : Str) : Str :=
  let ikm := shared_secret_32b.val ++ client_nonce.val ++ server_nonce.val ++ kem_ciphertext_bytes ++
    node_id.bytes.val
  hex.encode32 (crates.hkdf_sha256 ikm HKDF_INFO_SESSION)

/-- The bytes that a transcript hash covers, without any separation. -/
def transcriptInput (probe_bytes ack_bytes finish_bytes : Bytes) : Bytes :=
  probe_bytes ++ ack_bytes ++ finish_bytes

/-- `SHA-256(probe_bytes || ack_bytes || finish_bytes)`. -/
def compute_transcript_hash (probe_bytes ack_bytes finish_bytes : Bytes) : Bytes32 :=
  crates.sha256 (transcriptInput probe_bytes ack_bytes finish_bytes)

/-- `HMAC-SHA256(shared_secret_32b, transcript_hash)`. -/
def compute_server_mac (shared_secret_32b transcript_hash : Bytes32) : Bytes32 :=
  crates.hmac_sha256 shared_secret_32b.val transcript_hash.val

end witan.session
