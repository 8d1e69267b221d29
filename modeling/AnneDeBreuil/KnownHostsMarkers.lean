import AnneDeBreuil.KnownHosts

namespace AnneDeBreuil

section

variable (crates : SshCrates) (book : KnownHosts) (host : String) (key : PublicKey)

/-- The line is for the host and carries the key, whatever its marker. -/
def Entry.LinksTo (entry : Entry) : Prop :=
  hostPatternMatches crates entry.hostPatterns host = true ∧ entry.publicKey.keyData = key.keyData

def Revoked : Prop := ∃ entry ∈ book.fileEntries, entry.marker = some .revoked ∧ entry.LinksTo crates host key

/-- The key stands on an `@cert-authority` line for the host and on no other
kind of line for it. -/
def AuthorityOnly : Prop :=
  (∃ entry ∈ book.fileEntries, entry.marker = some .certAuthority ∧ entry.LinksTo crates host key) ∧
    ∀ entry ∈ book.fileEntries, entry.LinksTo crates host key → entry.marker = some .certAuthority

/-- Neither a revoked key nor an authority's own key is accepted for the host. -/
def MarkersRespected : Prop :=
  ∀ acceptNew, (verifyHostKey crates book host key acceptNew).1 = .ok () →
    ¬Revoked crates book host key ∧ ¬AuthorityOnly crates book host key

end

section

variable {crates : SshCrates} {book : KnownHosts} {host : String} {key : PublicKey}

/-- `lookup` reads no marker: any line for the host that carries the key lets
it in. -/
theorem verifyHostKey_of_linked {entry : Entry} (he : entry ∈ book.fileEntries)
    (hlinked : entry.LinksTo crates host key) (acceptNew : Bool) :
    (verifyHostKey crates book host key acceptNew).1 = .ok () := by
  have hmem : entry.publicKey ∈ book.keysFor crates host := by
    refine List.mem_append_left _ (List.mem_map_of_mem ?_)
    exact List.mem_filter.mpr ⟨he, hlinked.1⟩
  exact verifyHostKey_ok_iff.mpr (.inl ⟨entry.publicKey, hmem, hlinked.2⟩)

/-- Markers are respected exactly for the keys they do not speak of: every line
for the host with the key is unmarked, or is an authority's beside an unmarked
one. -/
theorem markersRespected_iff (crates : SshCrates) (contents host : String) (key : PublicKey) :
    MarkersRespected crates (.parse crates contents) host key ↔
      ∀ entry ∈ (KnownHosts.parse crates contents).fileEntries, entry.LinksTo crates host key →
        entry.marker = none ∨ entry.marker = some .certAuthority ∧
          ∃ plain ∈ (KnownHosts.parse crates contents).fileEntries,
            plain.marker = none ∧ plain.LinksTo crates host key := by
  generalize KnownHosts.parse crates contents = book
  constructor
  · intro respected entry he hlinked
    obtain ⟨notRevoked, notAuthority⟩ := respected false (verifyHostKey_of_linked he hlinked false)
    have unrevoked : ∀ other ∈ book.fileEntries, other.LinksTo crates host key → other.marker ≠ some .revoked :=
      fun other ho hother hmarker => notRevoked ⟨other, ho, hmarker, hother⟩
    cases hmarker : entry.marker with
    | none => exact .inl rfl
    | some marker =>
      cases marker with
      | revoked => exact absurd hmarker (unrevoked entry he hlinked)
      | certAuthority =>
        refine .inr ⟨rfl, ?_⟩
        by_contra noPlain
        refine notAuthority ⟨⟨entry, he, hmarker, hlinked⟩, fun other ho hother => ?_⟩
        cases hother' : other.marker with
        | none => exact absurd ⟨other, ho, hother', hother⟩ noPlain
        | some marker =>
          cases marker with
          | certAuthority => rfl
          | revoked => exact absurd hother' (unrevoked other ho hother)
  · intro unmarked acceptNew _
    refine ⟨?_, ?_⟩
    · rintro ⟨entry, he, hmarker, hlinked⟩
      rcases unmarked entry he hlinked with h | ⟨h, -⟩
      · cases hmarker.symm.trans h
      · cases hmarker.symm.trans h
    · rintro ⟨⟨entry, he, hmarker, hlinked⟩, only⟩
      rcases unmarked entry he hlinked with h | ⟨-, plain, hp, hplain, hlinks⟩
      · cases hmarker.symm.trans h
      · cases hplain.symm.trans (only plain hp hlinks)

end

def stolenKey : PublicKey where
  keyData := [0, 0, 0, 11, 115, 115, 104, 45, 101, 100, 50, 53, 53, 49, 57, 0, 0, 0, 32, 1] ++ List.replicate 31 0
  comment := ""

def revokedLine : String :=
  "@revoked build-host ssh-ed25519 AAAAC3NzaC1lZDI1NTE5AAAAIAEAAAAAAAAAAAAAAAAAAAAAAAAAAAAAAAAAAAAAAAAA"

/-- Reads the one line. -/
def revokedLineCrates : SshCrates where
  knownHosts contents :=
    if contents = revokedLine then [.ok ⟨some .revoked, .patterns ["build-host"], stolenKey⟩] else []
  hmacSha1 _ _ := none
  fingerprint _ := "SHA256:"

/-- The key its only line revokes is accepted. -/
theorem markersRespected_counterexample :
    (verifyHostKey revokedLineCrates (.parse revokedLineCrates revokedLine) "build-host" stolenKey false).1 =
        .ok () ∧
      ¬MarkersRespected revokedLineCrates (.parse revokedLineCrates revokedLine) "build-host" stolenKey := by
  have accepted : (verifyHostKey revokedLineCrates (.parse revokedLineCrates revokedLine) "build-host" stolenKey
      false).1 = .ok () := by decide
  refine ⟨accepted, fun respected => (respected false accepted).1 ?_⟩
  exact ⟨⟨some .revoked, .patterns ["build-host"], stolenKey⟩, by decide, rfl, by decide, rfl⟩

end AnneDeBreuil
