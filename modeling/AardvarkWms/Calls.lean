import AardvarkWms.InboundSteps
import AardvarkWms.Packing
import AardvarkWms.PickSteps
import AardvarkWms.WarehouseTasks

/-! The calls that sessions run side by side, and what each does to stock when it commits. -/
namespace AardvarkWms

open Transactions Transactions.Txn Relational

inductive Call
  | createReservation (warehouse : Text) (dto : CreateReservationDto)
  | releaseReservation (warehouse : Text) (reservation : ℕ) (target : ReleaseStatus)
  | allocateOutboundOrder (warehouse order : Text) (dto : AllocateOutboundOrderDto)
  | releasePicking (warehouse order : Text) (actor : AuthenticatedUser)
  | confirmPick (warehouse : Text) (task : ℕ) (dto : ConfirmPickDto) (actor : AuthenticatedUser)
  | pack (warehouse order : Text) (serialNumbers : List Text) (actor : AuthenticatedUser)
  | ship (warehouse order : Text) (serialNumbers : List Text) (actor : AuthenticatedUser)
  | scan (warehouse : Text) (session : ℕ) (dto : ScanRfStepDto)
  | reportTaskException (warehouse task : Text) (dto : ReportRfExceptionDto)
  | receive (warehouse : Text) (dto : ReceiveStockDto)
  | move (warehouse : Text) (dto : MoveStockDto)
  | adjust (warehouse : Text) (dto : AdjustStockDto)
  | block (warehouse quant : Text) (dto : TransferStockDto)
  | unblock (warehouse quant : Text) (dto : TransferStockDto)
  | confirmPutawayTask (warehouse : Text) (task : ℕ) (dto : ConfirmPutawayTaskDto)
  | confirmReplenishmentTask (warehouse : Text) (task : ℕ) (dto : ConfirmReplenishmentDto)
  | releasePlan (warehouse plan : Text)
  | submitTask (warehouse : Text) (task : ℕ) (dto : SubmitCycleCountDto)
  | approveTask (warehouse : Text) (task : ℕ)
  | addPackage (warehouse shipment : Text) (dto : AddShipmentPackageDto)
  | receiveInbound (warehouse shipment : Text) (dto : Inbound.ReceiveInboundLineDto)
  | claimNext (warehouse : Text) (dto : WarehouseTasks.ClaimNextWarehouseTaskDto) (actor : ℕ)
  | assign (warehouse task : Text) (dto : WarehouseTasks.AssignWarehouseTaskDto) (actor : ℕ)
  | start (warehouse task : Text) (dto : WarehouseTasks.StartWarehouseTaskDto) (actor : ℕ)
  | confirm (warehouse task : Text) (dto : WarehouseTasks.ConfirmWarehouseTaskDto)
  | fail (warehouse task : Text) (dto : WarehouseTasks.FailWarehouseTaskDto)
  | cancel (warehouse task : Text) (dto : WarehouseTasks.CancelWarehouseTaskDto)
  | startSession (warehouse : Text) (dto : StartRfSessionDto)
  | startTask (warehouse task : Text) (dto : StartRfSessionDto) (actor : ℕ)

namespace Call

def prog : Call → Wms Unit
  | createReservation w dto => AardvarkWms.createReservation w dto
  | releaseReservation w r target => AardvarkWms.releaseReservation w r target
  | allocateOutboundOrder w o dto => AardvarkWms.allocateOutboundOrder w o dto
  | releasePicking w o actor => AardvarkWms.releasePicking w o actor
  | confirmPick w t dto actor => AardvarkWms.confirmPick w t dto actor
  | pack w o serialNumbers actor => AardvarkWms.pack w o serialNumbers actor
  | ship w o serialNumbers actor => AardvarkWms.ship w o serialNumbers actor
  | scan w s dto => AardvarkWms.scan w s dto
  | reportTaskException w t dto => AardvarkWms.reportTaskException w t dto
  | receive w dto => (AardvarkWms.receive w dto).bind fun _ => .done ()
  | move w dto => (AardvarkWms.move w dto).bind fun _ => .done ()
  | adjust w dto => (AardvarkWms.adjust w dto).bind fun _ => .done ()
  | block w q dto => (AardvarkWms.block w q dto).bind fun _ => .done ()
  | unblock w q dto => (AardvarkWms.unblock w q dto).bind fun _ => .done ()
  | confirmPutawayTask w t dto => AardvarkWms.confirmPutawayTask w t dto
  | confirmReplenishmentTask w t dto => AardvarkWms.confirmReplenishmentTask w t dto
  | releasePlan w p => AardvarkWms.releasePlan w p
  | submitTask w t dto => AardvarkWms.submitTask w t dto
  | approveTask w t => AardvarkWms.approveTask w t
  | addPackage w s dto => AardvarkWms.addPackage w s dto
  | receiveInbound w s dto => (Inbound.receive w s dto).bind fun _ => .done ()
  | claimNext w dto actor => (WarehouseTasks.claimNext w dto actor).bind fun _ => .done ()
  | assign w t dto actor => WarehouseTasks.assign w t dto actor
  | start w t dto actor => WarehouseTasks.start w t dto actor
  | confirm w t dto => WarehouseTasks.confirm w t dto
  | fail w t dto => WarehouseTasks.fail w t dto
  | cancel w t dto => WarehouseTasks.cancel w t dto
  | startSession w dto => AardvarkWms.startSession w dto
  | startTask w t dto actor => AardvarkWms.startTask w t dto actor

def Effect : Call → WmsCtx → Prop
  | createReservation _ dto, c => ∃ q r m, Created dto c q r m
  | releaseReservation _ _ target, c => ∃ q r m, Released target c q r m
  | allocateOutboundOrder _ _ _, c => ∃ orderId lines as, Allocated c orderId lines as
  | confirmPick _ t dto _, c => ∃ p, Confirmed t dto c p
  | scan _ _ dto, c => ScanEffect dto c
  | reportTaskException _ _ _, c => ∃ returned order, Reported c returned order
  | addPackage w s dto, c => ∃ x p, PackageAdded w s dto c x p
  | receiveInbound w s dto, c => c.view=c.base ∨ ∃ x, Inbound.Received w s dto c x
  | _, _ => True

/-- Create, release and cancel, allocation, and the scanner's and the desk's picks. -/
def handlesReservations : Call → Bool
  | createReservation _ _ | releaseReservation _ _ _ | allocateOutboundOrder _ _ _
  | confirmPick _ _ _ _ | scan _ _ _ | reportTaskException _ _ _ => true
  | _ => false

theorem effect (op : Call) : Spec store op.Effect op.prog := by
  intro d
  cases op with
  | createReservation w dto => exact wp_createReservation w dto d
  | releaseReservation w r target => exact wp_releaseReservation w r target d
  | allocateOutboundOrder w o dto => exact wp_allocateOutboundOrder w o dto d
  | confirmPick w t dto actor => exact wp_confirmPick w t dto actor d
  | scan w s dto => exact wp_scan w s dto d
  | reportTaskException w t dto => exact wp_reportTaskException w t dto d
  | addPackage w s dto => exact wp_addPackage w s dto d
  | receiveInbound w s dto =>
    refine (wp_bind _ _).mpr (wp_mono (fun r c h => ?_) (Inbound.wp_receive w s dto d))
    rcases h with hreplay|⟨x,hx,_⟩
    · exact .inl hreplay
    · exact .inr ⟨x,hx⟩
  | _ => exact wp_true _

end Call

end AardvarkWms
