import SupplyChain.Relational.Frames
import SupplyChain.Supply

/-!
The helpers of the procurement commands under a contract: a check keeps every
contract, and a helper that writes keeps those that leave its tables free.
-/

namespace SupplyChain.Supply

open Relational Transaction TableName

variable {writes : List TableName} {contract : Contract Row String}

theorem obeys_text {value : String} {maximum : Nat} :
    Obeys contract (text value maximum : SupplyTx writes String) :=
  obeys_bind obeys_refuseIf fun _ => obeys_pure

theorem obeys_optionalText {value : Option String} {maximum : Nat} :
    Obeys contract (optionalText value maximum : SupplyTx writes (Option String)) := by
  unfold optionalText
  split
  · exact obeys_pure
  · refine obeys_ite (fun _ => obeys_pure) fun _ => ?_
    exact obeys_bind obeys_text fun _ => obeys_pure

theorem obeys_positiveInteger {value : Int} {message : String} :
    Obeys contract (positiveInteger value message : SupplyTx writes Int) :=
  obeys_bind obeys_refuseIf fun _ => obeys_pure

theorem obeys_positiveKey {value : Nat} {message : String} :
    Obeys contract (positiveKey value message : SupplyTx writes Nat) :=
  obeys_bind obeys_refuseIf fun _ => obeys_pure

theorem obeys_nonNegativeInteger {value : Int} {message : String} :
    Obeys contract (nonNegativeInteger value message : SupplyTx writes Int) :=
  obeys_bind obeys_refuseIf fun _ => obeys_pure

theorem obeys_date {value message : String} :
    Obeys contract (date value message : SupplyTx writes String) :=
  obeys_bind obeys_text fun _ => obeys_bind obeys_refuseIf fun _ => obeys_pure

theorem obeys_requireFile {access : AccessContext} {selector : FileSelector}
    {categories : List String} {entity : Option (String × List Nat)} :
    Obeys contract (requireFile access selector categories entity : SupplyTx writes FileObject) := by
  refine obeys_bind obeys_query fun found => obeys_bind obeys_orThrow fun file => ?_
  refine obeys_bind obeys_refuseIf fun _ => obeys_bind obeys_refuseIf fun _ => ?_
  refine obeys_bind obeys_refuseIf fun _ => obeys_bind obeys_refuseIf fun _ => ?_
  exact obeys_pure

theorem obeys_requireSourceFile {access : AccessContext} {sourceFileKey : Option String} :
    Obeys contract (requireSourceFile access sourceFileKey : SupplyTx writes Unit) := by
  unfold requireSourceFile
  split
  · exact obeys_pure
  · exact obeys_bind obeys_requireFile fun _ => obeys_pure

theorem obeys_createReminder [Writes reminderSchedules writes] {reminderType : ReminderType}
    {entityId dueAt : Nat} {businessNo : String} (free : Free contract reminderSchedules) :
    Obeys contract (createReminder reminderType entityId businessNo dueAt : SupplyTx writes Unit) :=
  obeys_insertRow free

variable {t : TableName} {law : Law (Table (Row t))}

theorem keeps_domainEvent {command : SupplyContext} {eventType entityType : String}
    {entityId : Nat} :
    Obeys (onTable t law)
      (Supply.domainEvent command eventType entityType entityId : SupplyTx writes Unit) :=
  obeys_send fun _ => law.refl _

theorem keeps_approvalNotification {command : SupplyContext} {workflowType : String}
    {approvalId : Nat} :
    Obeys (onTable t law)
      (approvalNotification command workflowType approvalId : SupplyTx writes Unit) :=
  obeys_bind obeys_refuseIf fun _ => obeys_send fun _ => law.refl _

end SupplyChain.Supply
