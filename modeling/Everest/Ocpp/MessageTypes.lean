import Everest.Ocpp.Queues

namespace Everest.Ocpp

namespace V16

inductive MessageType
  | authorize | bootNotification | cancelReservation | certificateSigned | changeAvailability
  | changeConfiguration | clearCache | clearChargingProfile | dataTransfer | deleteCertificate
  | diagnosticsStatusNotification | extendedTriggerMessage | firmwareStatusNotification
  | getCompositeSchedule | getConfiguration | getDiagnostics | getInstalledCertificateIds
  | getLocalListVersion | getLog | heartbeat | installCertificate | logStatusNotification
  | meterValues | remoteStartTransaction | remoteStopTransaction | reserveNow | reset
  | securityEventNotification | sendLocalList | setChargingProfile | signCertificate
  | signedFirmwareStatusNotification | signedUpdateFirmware | startTransaction
  | statusNotification | stopTransaction | triggerMessage | unlockConnector | updateFirmware
  | internalError
deriving DecidableEq, Repr

def isTransactionMessage (messageType : MessageType) : Bool :=
  messageType = .startTransaction ∨ messageType = .stopTransaction ∨
    messageType = .meterValues ∨ messageType = .securityEventNotification

instance : Ocpp.MessageType MessageType where
  bootNotification := .bootNotification
  securityEventNotification := .securityEventNotification
  isTransactionMessage := isTransactionMessage
  isStartTransactionMessage messageType := messageType = .startTransaction
  isTransactionUpdateMessage messageType _ := messageType = .meterValues

end V16

namespace V2

inductive MessageType
  | authorize | bootNotification | cancelReservation | certificateSigned | changeAvailability
  | clearCache | clearChargingProfile | clearDisplayMessage | clearedChargingLimit
  | clearVariableMonitoring | costUpdated | customerInformation | dataTransfer | deleteCertificate
  | firmwareStatusNotification | get15118EVCertificate | getBaseReport | getCertificateStatus
  | getChargingProfiles | getCompositeSchedule | getDisplayMessages | getInstalledCertificateIds
  | getLocalListVersion | getLog | getMonitoringReport | getReport | getTransactionStatus
  | getVariables | heartbeat | installCertificate | logStatusNotification | meterValues
  | notifyChargingLimit | notifyCustomerInformation | notifyDisplayMessages
  | notifyEVChargingNeeds | notifyEVChargingSchedule | notifyEvent | notifyMonitoringReport
  | notifyReport | publishFirmware | publishFirmwareStatusNotification | reportChargingProfiles
  | requestStartTransaction | requestStopTransaction | reservationStatusUpdate | reserveNow
  | reset | securityEventNotification | sendLocalList | setChargingProfile | setDisplayMessage
  | setMonitoringBase | setMonitoringLevel | setNetworkProfile | setVariableMonitoring
  | setVariables | signCertificate | statusNotification | transactionEvent | triggerMessage
  | unlockConnector | unpublishFirmware | updateFirmware | adjustPeriodicEventStream | afrrSignal
  | batterySwap | changeTransactionTariff | clearDERControl | clearTariffs
  | closePeriodicEventStream | getCRL | getDERControl | getPeriodicEventStream | getTariffs
  | notifyAllowedEnergyTransfer | notifyDERAlarm | notifyDERStartStop | notifyPeriodicEventStream
  | notifyPriorityCharging | notifySettlement | openPeriodicEventStream
  | pullDynamicScheduleUpdate | reportDERControl | requestBatterySwap | setDefaultTariff
  | setDERControl | updateDynamicSchedule | usePriorityCharging | vatNumberValidation
  | internalError
deriving DecidableEq, Repr

def isTransactionMessage (messageType : MessageType) : Bool :=
  messageType = .transactionEvent ∨ messageType = .securityEventNotification

instance : Ocpp.MessageType MessageType where
  bootNotification := .bootNotification
  securityEventNotification := .securityEventNotification
  isTransactionMessage := isTransactionMessage
  isStartTransactionMessage _ := false
  isTransactionUpdateMessage messageType payload :=
    messageType = .transactionEvent ∧ payload.eventType = some .updated

end V2

end Everest.Ocpp
