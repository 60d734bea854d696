import RatchetingInquiry.Library.Interference
import RatchetingInquiry.Orchestration.Effects

/-! The artifact store under its writers. It only grows, and what was put there is found by its reference however many
others put theirs. One digest is one content only where digests are assumed to tell contents apart. -/

namespace RatchetingInquiry

section
variable [ByteFacts]

/-- The artifact that stored bytes are named by. -/
def artifactOf (data : StoredBytes) (mediaType encoding : String) : ArtifactRef :=
  ⟨ByteFacts.sha256 data, ByteFacts.length data, some mediaType, some encoding⟩

namespace ArtifactStore

/-- The bytes are a file of the store, under their digest. -/
def Holds (store : ArtifactStore) (data : StoredBytes) : Prop := store.files (ByteFacts.sha256 data) = some data

omit [ByteFacts] in
/-- No file is lost or changed. -/
def Grows (store next : ArtifactStore) : Prop :=
  ∀ digest data, store.files digest = some data → next.files digest = some data

variable {store next : ArtifactStore} {data : StoredBytes} {mediaType encoding : String}

theorem getBytes_eq_ok {artifact : ArtifactRef} : store.getBytes artifact = .ok data ↔
    store.files artifact.digest = some data ∧ ByteFacts.length data = artifact.size ∧
      ByteFacts.sha256 data = artifact.digest := by
  unfold getBytes
  rw [found_bind_eq_ok]
  constructor
  · intro read
    obtain ⟨found, file, checked⟩ := read
    rw [require_bind_eq_ok, require_bind_eq_ok] at checked
    obtain ⟨size, digest, same⟩ := checked
    obtain rfl := Except.ok.inj same
    exact ⟨file, size, digest⟩
  · intro file
    refine ⟨data, file.1, ?_⟩
    rw [require_bind_eq_ok, require_bind_eq_ok]
    exact ⟨file.2.1, file.2.2, rfl⟩

theorem getBytes_artifactOf (holds : store.Holds data) :
    store.getBytes (artifactOf data mediaType encoding) = .ok data :=
  getBytes_eq_ok.mpr ⟨holds, rfl, rfl⟩

omit [ByteFacts] in
theorem Grows.refl (store : ArtifactStore) : Grows store store := fun _ _ file => file

theorem Grows.getBytes (grows : Grows store next) {artifact : ArtifactRef} (read : store.getBytes artifact = .ok data) :
    next.getBytes artifact = .ok data := by
  rw [getBytes_eq_ok] at read ⊢
  exact ⟨grows _ _ read.1, read.2⟩

theorem Grows.holds (grows : Grows store next) (held : store.Holds data) : next.Holds data := grows _ _ held

theorem putBytes_grows : Grows store (store.putBytes data mediaType encoding).2 := by
  intro digest held file
  unfold putBytes
  dsimp only
  split
  next => exact file
  next absent =>
    dsimp only
    rw [if_neg (fun same => by rw [same, absent] at file; cases file)]
    exact file

/-- What was put is held: a file that was there already has the digest, and so is the content. -/
theorem putBytes_holds (apart : Function.Injective ByteFacts.sha256) {artifact : ArtifactRef}
    (put : (store.putBytes data mediaType encoding).1 = .ok artifact) :
    artifact = artifactOf data mediaType encoding ∧ (store.putBytes data mediaType encoding).2.Holds data := by
  unfold putBytes at put ⊢
  dsimp only at put ⊢
  split at put
  next other file =>
    cases read : store.getBytes (artifactOf data mediaType encoding) with
    | error failure =>
      rw [artifactOf] at read
      rw [read] at put
      cases put
    | ok content =>
      obtain ⟨there, -, digest⟩ := getBytes_eq_ok.mp read
      rw [artifactOf] at read
      rw [read] at put
      obtain rfl := apart digest
      exact ⟨(Except.ok.inj put).symm, there⟩
  next => exact ⟨(Except.ok.inj put).symm, if_pos rfl⟩

/-- One put. -/
def Writes (store next : ArtifactStore) : Prop :=
  ∃ data mediaType encoding, next = (store.putBytes data mediaType encoding).2

/-- Every file is named by the digest of its content. -/
def Consistent (store : ArtifactStore) : Prop :=
  ∀ digest data, store.files digest = some data → ByteFacts.sha256 data = digest

theorem Writes.grows (writes : Writes store next) : Grows store next := by
  obtain ⟨data, mediaType, encoding, rfl⟩ := writes
  exact putBytes_grows

theorem stable_of_grows {fact : ArtifactStore → Prop} (stays : Client.Stable Grows fact) : Client.Stable Writes fact :=
  fun store next writes holds => stays store next writes.grows holds

theorem stable_holds (data : StoredBytes) : Client.Stable Writes (fun store => store.Holds data) :=
  stable_of_grows (fun _ _ grows held => grows.holds held)

theorem stable_consistent : Client.Stable Writes Consistent := by
  intro store next writes consistent digest content file
  obtain ⟨data, mediaType, encoding, rfl⟩ := writes
  unfold putBytes at file
  dsimp only at file
  split at file
  next => exact consistent digest content file
  next =>
    dsimp only at file
    split at file
    next same =>
      obtain rfl := Option.some.inj file
      exact same.symm
    next => exact consistent digest content file

/-- Among files that are named by their digests every put succeeds. -/
theorem putBytes_returns (apart : Function.Injective ByteFacts.sha256) (consistent : store.Consistent) :
    (store.putBytes data mediaType encoding).1 = .ok (artifactOf data mediaType encoding) := by
  unfold putBytes
  dsimp only
  split
  next other file =>
    obtain rfl := apart (consistent _ _ file)
    have read : store.getBytes (artifactOf other mediaType encoding) = .ok other := getBytes_artifactOf file
    rw [artifactOf] at read ⊢
    rw [read]
    rfl
  next => rfl

end ArtifactStore

/-- A program that works on the artifacts. -/
abbrev ArtifactProgram : Type → Type := Client ArtifactStore ExecutorFailure

def putArtifact (data : StoredBytes) (mediaType encoding : String) : ArtifactProgram ArtifactRef :=
  Client.update (fun store =>
    (fromStore (store.putBytes data mediaType encoding).1, (store.putBytes data mediaType encoding).2))

section
variable {pre : ArtifactStore → Prop} {sure : Prop}

/-- What was put stays, beside whatever puts leave true. -/
theorem putArtifact_keeps (apart : Function.Injective ByteFacts.sha256)
    (stays : Client.Stable ArtifactStore.Writes pre) (consistent : sure → ∀ store, pre store → store.Consistent)
    (data : StoredBytes) (mediaType encoding : String) :
    (putArtifact data mediaType encoding).Keeps ArtifactStore.Writes (Client.Ends sure (fun artifact store =>
      artifact = artifactOf data mediaType encoding ∧ store.Holds data ∧ pre store)) pre := by
  have writes : ∀ store : ArtifactStore, store.Writes (store.putBytes data mediaType encoding).2 :=
    fun store => ⟨data, mediaType, encoding, rfl⟩
  apply Client.keeps_update
  · exact fun store given => .single (writes store)
  · intro store given later reached
    constructor
    · intro artifact put
      obtain ⟨named, held⟩ := ArtifactStore.putBytes_holds apart (fromStore_eq_ok.mp put)
      have kept := (ArtifactStore.stable_holds data).run reached held
      exact ⟨named, kept, stays.run reached (stays _ _ (writes store) given)⟩
    · intro settled
      exact ⟨_, fromStore_eq_ok.mpr (ArtifactStore.putBytes_returns apart (consistent settled store given))⟩

end

end

end RatchetingInquiry
