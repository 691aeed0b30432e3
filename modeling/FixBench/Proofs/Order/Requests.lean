import FixBench.Proofs.View.Reading

/-!
# Requests as they are read

The requests an order's owner sends can always be built, and whoever receives one reads the order's
own values in it, decimals but for the sign of a zero. An order whose type works at a price has to
have one.
-/
namespace FixBench.Order

open MessageView

theorem newRequest_eq (o : Order) (version : String)
    (priced : o.ordType.requiresPrice = true → o.price.isSome = true) :
    ∃ m, o.newRequest version = .ok m ∧
      ofMessage m = .ok (⟨m, o.clOrdId, o.symbol, o.side, o.ordType, o.orderQty.plain,
        o.price.map Decimal.plain⟩ : NewOrderSingle) := by
  let draft := ((Draft.start NewOrderSingle version).clOrdId o.clOrdId
    |>.symbol o.symbol |>.side o.side |>.ordType o.ordType |>.orderQty o.orderQty).priceIfSome o.price
  have reads : ofMessage draft.message = .ok (⟨draft.message, o.clOrdId, o.symbol, o.side, o.ordType,
      o.orderQty.plain, o.price.map Decimal.plain⟩ : NewOrderSingle) := by
    refine NewOrderSingle.ofMessage_of_get ?_ ?_ ?_ ?_ ?_ ?_ ?_ priced <;>
      simp +decide [draft, type]
  refine ⟨draft.message, ?_, reads⟩
  show (do let request ← (ofMessage draft.message : Except BuildFault NewOrderSingle)
           return request.message) = _
  rw [reads]
  rfl

theorem cancelRequest_eq (o : Order) (version : String) :
    ∃ m, o.cancelRequest version = .ok m ∧
      ofMessage m = .ok (⟨m, o.clOrdId, o.cancelId, o.symbol, o.side, o.orderId⟩ :
        OrderCancelRequest) := by
  let draft := ((Draft.start OrderCancelRequest version).origClOrdId o.clOrdId
    |>.clOrdId o.cancelId |>.symbol o.symbol |>.side o.side).orderIdIfSome o.orderId
  have reads : ofMessage draft.message = .ok (⟨draft.message, o.clOrdId, o.cancelId, o.symbol, o.side,
      o.orderId⟩ : OrderCancelRequest) := by
    apply OrderCancelRequest.ofMessage_of_get <;> simp +decide [draft, type]
  refine ⟨draft.message, ?_, reads⟩
  show (do let request ← (ofMessage draft.message : Except BuildFault OrderCancelRequest)
           return request.message) = _
  rw [reads]
  rfl

theorem replaceRequest_eq (o : Order) (version : String) (qty : Decimal) (price : Option Decimal) :
    ∃ m, o.replaceRequest version qty price = .ok m ∧
      ofMessage m = .ok (⟨m, o.clOrdId, o.replaceId, o.symbol, o.side, o.ordType, qty.plain,
        (price.or o.price).map Decimal.plain⟩ : OrderCancelReplaceRequest) := by
  let draft := (((Draft.start OrderCancelReplaceRequest version).origClOrdId o.clOrdId
    |>.clOrdId o.replaceId |>.symbol o.symbol |>.side o.side |>.ordType o.ordType
    |>.orderQty qty).priceIfSome (price.or o.price)).orderIdIfSome o.orderId
  have reads : ofMessage draft.message = .ok (⟨draft.message, o.clOrdId, o.replaceId, o.symbol, o.side,
      o.ordType, qty.plain, (price.or o.price).map Decimal.plain⟩ : OrderCancelReplaceRequest) := by
    apply OrderCancelReplaceRequest.ofMessage_of_get <;> simp +decide [draft, type]
  refine ⟨draft.message, ?_, reads⟩
  show (do let request ← (ofMessage draft.message : Except BuildFault OrderCancelReplaceRequest)
           return request.message) = _
  rw [reads]
  rfl

end FixBench.Order
