import RemoteFiles.Auth.Authorization
import RemoteFiles.Proofs.Text.Base64
import RemoteFiles.Proofs.Url.Percent

/-!
# Basic answers as a server reads them

The server takes the base64 text of a `Basic` answer back to bytes and finds the user name, a colon
and the password there (`basic_answer_reads_back`).  A user name may not have a colon, since the
first colon is where the server parts the two; and then no two credentials give the same answer.
-/

namespace RemoteFiles.Auth

open RemoteFiles.Text.Base64 (IsPadded decode? decode?_encode isPadded_encode)
open RemoteFiles.Url (bytes bytes_injective)

/-! ### Bytes in a list -/

theorem toList_loop (bs : ByteArray) (i : Nat) (before : List UInt8) :
    ByteArray.toList.loop bs i before = before.reverse ++ bs.data.toList.drop i := by
  fun_induction ByteArray.toList.loop bs i before with
  | case1 i before h ih =>
    have hi : i < bs.data.toList.length := by simpa using h
    have hget : bs.get! i = bs.data.toList[i] := by
      show bs.data[i]! = bs.data.toList[i]
      rw [getElem!_pos bs.data i h, Array.getElem_toList]
    rw [ih, List.drop_eq_getElem_cons hi, List.reverse_cons, List.append_assoc,
      List.singleton_append, hget]
  | case2 i before h =>
    have hi : bs.data.toList.length ≤ i := by simpa using h
    rw [List.drop_eq_nil_of_le hi, List.append_nil]

theorem toList_toUTF8 (s : String) : s.toUTF8.toList = bytes s.toList := by
  rw [ByteArray.toList, toList_loop, Url.toUTF8_eq, List.data_toByteArray]
  rfl

/-! ### Reading back -/

/-- The bytes that a server finds in a `Basic` answer. -/
def basicBytes (c : Credential) : List UInt8 :=
  c.username.toUTF8.toList ++ 0x3A :: c.password.toUTF8.toList

theorem toList_pair (c : Credential) :
    (c.username ++ ":" ++ c.password).toUTF8.toList = basicBytes c := by
  have hcolon : bytes ":".toList = [0x3A] := by decide
  simp only [basicBytes, toList_toUTF8, String.toList_append, Url.bytes_append, hcolon,
    List.append_assoc, List.singleton_append]

theorem basicAuthorization_eq (c : Credential) :
    basicAuthorization c = "Basic " ++ String.ofList (Text.Base64.encode (basicBytes c)) := by
  rw [basicAuthorization, toList_pair]

/-- Texts that are parted at their first colon are parted at the same place. -/
theorem eq_of_append_colon {u v p q : List Char} (hu : ':' ∉ u) (hv : ':' ∉ v)
    (h : u ++ ':' :: p = v ++ ':' :: q) : u = v ∧ p = q := by
  -- one user name begins the other, and behind it the other would go on with a colon
  rcases List.append_eq_append_iff.mp h with ⟨more, rfl, hmore⟩ | ⟨more, rfl, hmore⟩
  · cases more with
    | nil => simpa using hmore
    | cons c more =>
      obtain ⟨rfl, -⟩ := List.cons_eq_cons.mp hmore
      exact absurd (by simp) hv
  · cases more with
    | nil => simpa [eq_comm] using hmore
    | cons c more =>
      obtain ⟨rfl, -⟩ := List.cons_eq_cons.mp hmore
      exact absurd (by simp) hu

theorem basicBytes_injective {c d : Credential} (hc : ':' ∉ c.username.toList)
    (hd : ':' ∉ d.username.toList) (h : basicBytes c = basicBytes d) : c = d := by
  rw [← toList_pair, ← toList_pair, toList_toUTF8, toList_toUTF8] at h
  have htexts : c.username.toList ++ ':' :: c.password.toList =
      d.username.toList ++ ':' :: d.password.toList := by
    simpa [String.toList_append] using bytes_injective h
  obtain ⟨husername, hpassword⟩ := eq_of_append_colon hc hd htexts
  cases c
  cases d
  rw [Credential.mk.injEq]
  exact ⟨String.toList_inj.mp husername, String.toList_inj.mp hpassword⟩

/-- A `Basic` answer is the scheme's name and padded base64 text, which reads as the bytes of user
name, colon and password; and among credentials whose user names have no colon it tells whose it
is. -/
theorem basic_answer_reads_back (c : Credential) :
    ∃ text, basicAuthorization c = "Basic " ++ String.ofList text ∧
      IsPadded (basicBytes c).length text ∧
      decode? text =
        some (c.username.toUTF8.toList ++ ":".toUTF8.toList ++ c.password.toUTF8.toList) ∧
      (':' ∉ c.username.toList → ∀ d : Credential, ':' ∉ d.username.toList →
        (basicAuthorization d = basicAuthorization c ↔ d = c)) := by
  refine ⟨_, basicAuthorization_eq c, isPadded_encode _, ?_, ?_⟩
  · have hcolon : ":".toUTF8.toList = [0x3A] := by
      rw [toList_toUTF8]
      decide
    rw [decode?_encode, hcolon, basicBytes, List.append_assoc, List.singleton_append]
  · intro hc d hd
    constructor
    · intro h
      rw [basicAuthorization_eq, basicAuthorization_eq] at h
      have htext := String.ofList_injective ((String.append_right_inj _).mp h)
      have hbytes := congrArg decode? htext
      rw [decode?_encode, decode?_encode] at hbytes
      exact basicBytes_injective hd hc (Option.some.inj hbytes)
    · rintro rfl
      rfl

/-- A colon in the password, and a user name of two bytes. -/
theorem basic_answer_reads_back_of_colon :
    ∃ text, basicAuthorization ⟨"é", "a:"⟩ = "Basic " ++ String.ofList text ∧
      decode? text = some [0xC3, 0xA9, 0x3A, 0x61, 0x3A] ∧ ':' ∉ "é".toList ∧ ':' ∉ "e".toList ∧
      basicAuthorization ⟨"e", "a:"⟩ ≠ basicAuthorization ⟨"é", "a:"⟩ := by
  obtain ⟨text, hheader, -, hbytes, hiff⟩ := basic_answer_reads_back ⟨"é", "a:"⟩
  have hname : ':' ∉ "é".toList := by decide
  have hother : ':' ∉ "e".toList := by decide
  refine ⟨text, hheader, ?_, hname, hother, ?_⟩
  · rw [hbytes, toList_toUTF8, toList_toUTF8, toList_toUTF8]
    decide
  · rw [Ne, hiff hname ⟨"e", "a:"⟩ hother]
    decide

end RemoteFiles.Auth
