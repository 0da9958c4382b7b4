import ScatterGather.Exchange.Endpoints
import ScatterGather.Proofs.Text

/-!
# Identifiers of mailboxes as text

The text of an identifier has its six parts in a row, an underscore after the first one and colons
between the others. The host of the receiver may contain both; what tells the parts apart is that
numbers contain neither, so they are taken off at both ends until the two hosts are left, and the
host of the sender ends at the first colon.

**Results.** `text_inj`: among the identifiers whose senders' hosts have no colon, no two have the
same text.
-/

namespace ScatterGather
namespace MailboxId

variable {a b : MailboxId}

/-- The text of an identifier, as it is taken apart. -/
theorem toList_text (id : MailboxId) :
    id.text.toList =
      ((toString id.request.toInt).toList ++
        '_' :: ((toString id.stage.toInt).toList ++
          ':' :: (id.senderHost.toList ++
            ':' :: (Nat.toDigits 10 id.senderPort.toNat ++
              ':' :: id.receiverHost.toList)))) ++
        ':' :: Nat.toDigits 10 id.receiverPort.toNat := by
  simp [text]

/-- **Texts of mailboxes are unambiguous.** Two identifiers whose senders' hosts have no colon are
the same if they have the same text, whatever their other parts are. -/
theorem text_inj
    (a b : MailboxId)
    (ha : ':' ∉ a.senderHost.toList)
    (hb : ':' ∉ b.senderHost.toList)
    (h : a.text = b.text) :
    a = b := by
  have htext := congrArg String.toList h
  rw [toList_text, toList_text] at htext
  have hcolon : ∀ n, ':' ∉ Nat.toDigits 10 n := Numeral.not_mem_toDigits (by decide)
  have hmark : ∀ (mark : Char) (i : Int), mark.isDigit = false → mark ≠ '-' →
      mark ∉ (toString i).toList := fun mark i hdigit hsign =>
    Numeral.not_mem_toString hdigit hsign i
  -- The last number is the only part behind the last colon.
  obtain ⟨hfront, hreceiverPort⟩ := append_cons_inj (hcolon _) (hcolon _) htext
  -- From the other end on, each part is before the first of the mark that follows it.
  obtain ⟨hrequest, hfront⟩ := append_cons_inj_of_front
    (hmark '_' _ (by decide) (by decide)) (hmark '_' _ (by decide) (by decide)) hfront
  obtain ⟨hstage, hfront⟩ := append_cons_inj_of_front
    (hmark ':' _ (by decide) (by decide)) (hmark ':' _ (by decide) (by decide)) hfront
  obtain ⟨hsenderHost, hfront⟩ := append_cons_inj_of_front ha hb hfront
  obtain ⟨hsenderPort, hreceiverHost⟩ := append_cons_inj_of_front (hcolon _) (hcolon _) hfront
  have hrequest : a.request = b.request := Int64.toInt_inj.1 (Numeral.toString_int_inj hrequest)
  have hstage : a.stage = b.stage := Int32.toInt_inj.1 (Numeral.toString_int_inj hstage)
  have hsenderHost : a.senderHost = b.senderHost := String.toList_inj.1 hsenderHost
  have hsenderPort : a.senderPort = b.senderPort :=
    UInt16.toNat_inj.1 (Numeral.toDigits_inj hsenderPort)
  have hreceiverHost : a.receiverHost = b.receiverHost := String.toList_inj.1 hreceiverHost
  have hreceiverPort : a.receiverPort = b.receiverPort :=
    UInt16.toNat_inj.1 (Numeral.toDigits_inj hreceiverPort)
  cases a
  cases b
  simp_all

/-- Two ways to give a mailbox whose numbers are negative and whose receiver has both marks in its
host. -/
theorem text_inj_marked :
    let a : MailboxId := ⟨-7, -1, "worker-a", 8442, "ff_0::1:2", 9000⟩
    let b : MailboxId := ⟨-7, 4294967295, "worker" ++ "-a", 8442, "ff_0::1:" ++ "2", 9000⟩
    a.text = "-7_-1:worker-a:8442:ff_0::1:2:9000" ∧ a = b := by
  intro a b
  have hsame : a.text = b.text := by decide +kernel
  exact ⟨by decide +kernel, text_inj a b (by decide +kernel) (by decide +kernel) hsame⟩

-- With a colon in its host, the end of a sender can also be the start of its receiver.
example :
    let a : MailboxId := ⟨7, 1, "a:1", 2, "b", 3⟩
    let b : MailboxId := ⟨7, 1, "a", 1, "2:b", 3⟩
    a.text = b.text ∧ a ≠ b := by
  decide +kernel

end MailboxId
end ScatterGather
