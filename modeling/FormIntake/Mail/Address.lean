import FormIntake.Mail.Host
import FormIntake.Text.Utf8

/-! # Mail addresses

An address is a mailbox, an at sign and a host name.  The mailbox is atoms with dots between them;
characters other than basic letters may stand in it as long as they are safe.  Quoted mailboxes,
names in front of the address and bracketed hosts are not accepted.
-/

namespace FormIntake.Mail

open Text

/-- The longest address in bytes. -/
def maxAddress : Nat := 254

/-- Whether a character may stand in an atom. -/
def isAtomChar (c : Char) : Bool :=
  c.isAlphanum || "_!#$%&'*+-/=?^\x60\x7b|\x7d~".toList.contains c || 0x80 ≤ c.toNat

/-- Atoms with dots between them. -/
def isDotAtom (text : List Char) : Bool :=
  (splitOn '.' text).all fun atom => !atom.isEmpty && atom.all isAtomChar

/-- Whether a text is a mailbox. -/
def isMailbox (text : List Char) : Bool :=
  isDotAtom text && (text.all (·.toNat < 0x80) || isSafe text)

/-- The length of a text in bytes. -/
def byteLength (text : List Char) : Nat := (text.flatMap utf8Bytes).length

/-- Whether a mailbox and a host make an address that is not too long. -/
def fits (mailbox host : List Char) : Bool :=
  byteLength mailbox + 1 + byteLength host ≤ maxAddress

/-- Whether a text is a mail address. -/
def isAddress (text : List Char) : Bool :=
  match splitFirst '@' text with
  | (_, none) => false
  | (mailbox, some host) =>
    isMailbox mailbox && isMailbox (composed mailbox) &&
      match HostName.read host with
      | none => false
      | some name =>
        fits mailbox host && fits (composed mailbox) name.shown &&
          fits (composed mailbox) name.basic

end FormIntake.Mail
