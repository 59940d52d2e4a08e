import Gateway.Ingress.Routes

namespace Gateway
namespace Ingress

open State

/-!
# The commands of this gateway

The registry of client commands and the authorization metadata of the relayed
ones, in the order of the source.
-/

def commandRegistry : List CommandSpec :=
  [ ⟨"auth", .noAuth, .technical, false⟩,
    ⟨"auth_login_request", .noAuth, .technical, false⟩,
    ⟨"auth_register_request", .noAuth, .technical, false⟩,
    ⟨"auth_identity_request", .noAuth, .technical, false⟩,
    ⟨"user_vault_init", .backendControl, .command, false⟩,
    ⟨"user_vault_fetch", .backendControl, .query, false⟩,
    ⟨"user_vault_update_password", .backendControl, .command, false⟩,
    ⟨"user_vault_update_recovery", .backendControl, .command, false⟩,
    ⟨"user_vault_update_user_key", .backendControl, .command, false⟩,
    ⟨"user_identity_key_register", .backendControl, .command, false⟩,
    ⟨"user_identity_key_list", .backendControl, .query, false⟩,
    ⟨"user_identity_key_revoke", .backendControl, .command, false⟩,
    ⟨"user_identity_vault_register", .backendControl, .command, false⟩,
    ⟨"user_identity_vault_revoke", .backendControl, .command, false⟩,
    ⟨"user_device_vault_fetch", .backendControl, .query, false⟩,
    ⟨"user_device_vault_register", .backendControl, .command, false⟩,
    ⟨"conversation_key_init", .backendControl, .command, false⟩,
    ⟨"conversation_key_fetch", .backendControl, .query, false⟩,
    ⟨"session_ready", .backendControl, .signal, false⟩,
    ⟨"device_pairing_endpoint_create", .backendControl, .command, false⟩,
    ⟨"device_pairing_register_device", .backendControl, .command, false⟩,
    ⟨"device_pairing_request", .backendControl, .command, false⟩,
    ⟨"device_pairing_approve", .backendControl, .command, false⟩,
    ⟨"device_pairing_reject", .backendControl, .command, false⟩,
    ⟨"file_key_wrap", .backendControl, .command, false⟩,
    ⟨"file_key_fetch", .backendControl, .query, false⟩,
    ⟨"dropbox_public_auth", .noAuth, .technical, false⟩,
    ⟨"device_pairing_auth", .noAuth, .technical, false⟩,
    ⟨"ping", .gatewayLocal, .technical, false⟩,
    ⟨"bootstrap_request", .backendControl, .query, false⟩,
    ⟨"online_request", .backendControl, .query, false⟩,
    ⟨"users_request", .backendControl, .query, false⟩,
    ⟨"mls_key_package_publish", .backendControl, .command, false⟩,
    ⟨"mls_key_package_fetch", .backendControl, .query, false⟩,
    ⟨"contact_unblock", .backendControl, .command, false⟩,
    ⟨"contacts_request", .backendControl, .query, false⟩,
    ⟨"notifications_request", .backendControl, .query, false⟩,
    ⟨"notification_ack", .backendControl, .command, false⟩,
    ⟨"notification_seen", .backendControl, .command, false⟩,
    ⟨"notification_dismiss", .backendControl, .command, false⟩,
    ⟨"contact_profiles_request", .backendControl, .query, false⟩,
    ⟨"attachment_upload_init", .backendControl, .command, false⟩,
    ⟨"attachment_upload_chunk", .backendControl, .command, false⟩,
    ⟨"attachment_upload_finalize", .backendControl, .command, false⟩,
    ⟨"audit_timeline_request", .backendControl, .query, false⟩,
    ⟨"audit_timeline_export_request", .backendControl, .query, false⟩,
    ⟨"attachment_download_chunk", .backendControl, .query, false⟩,
    ⟨"attachment_list_request", .backendControl, .query, false⟩,
    ⟨"attachment_delete_request", .backendControl, .command, false⟩,
    ⟨"user_storage_upload_init", .backendControl, .command, false⟩,
    ⟨"user_storage_upload_payload", .backendControl, .command, false⟩,
    ⟨"user_storage_upload_finalize", .backendControl, .command, false⟩,
    ⟨"user_storage_download", .backendControl, .query, false⟩,
    ⟨"user_storage_list_request", .backendControl, .query, false⟩,
    ⟨"user_storage_delete_request", .backendControl, .command, false⟩,
    ⟨"user_storage_share_link_create", .backendControl, .command, false⟩,
    ⟨"user_storage_share_links_request", .backendControl, .query, false⟩,
    ⟨"user_storage_share_link_revoke", .backendControl, .command, false⟩,
    ⟨"user_storage_share_info_request", .backendControl, .query, false⟩,
    ⟨"user_storage_share_download", .backendControl, .query, false⟩,
    ⟨"contact_add", .backendControl, .command, false⟩,
    ⟨"contact_accept", .backendControl, .command, false⟩,
    ⟨"contact_block", .backendControl, .command, false⟩,
    ⟨"contact_profile_upsert", .backendControl, .command, false⟩,
    ⟨"contact_profile_delete", .backendControl, .command, false⟩,
    ⟨"deadman_config_request", .backendControl, .command, false⟩,
    ⟨"deadman_config_upsert", .backendControl, .command, false⟩,
    ⟨"dropbox_endpoints_request", .backendControl, .query, false⟩,
    ⟨"dropbox_endpoint_upsert", .backendControl, .command, false⟩,
    ⟨"dropbox_endpoint_delete", .backendControl, .command, false⟩,
    ⟨"dropbox_messages_request", .backendControl, .query, false⟩,
    ⟨"dropbox_message_delete", .backendControl, .command, false⟩,
    ⟨"dropbox_public_info_request", .backendControl, .query, false⟩,
    ⟨"dropbox_public_submit", .backendControl, .command, false⟩,
    ⟨"chat_conversations_request", .backendControl, .query, false⟩,
    ⟨"chat_conversation_open", .backendControl, .command, false⟩,
    ⟨"chat_messages_request", .backendControl, .query, false⟩,
    ⟨"group_create", .backendControl, .command, false⟩,
    ⟨"group_add", .backendControl, .command, false⟩,
    ⟨"group_leave", .backendControl, .command, false⟩,
    ⟨"group_membership_accept", .backendControl, .command, false⟩,
    ⟨"history_clear", .backendControl, .command, false⟩,
    ⟨"identity_profile_request", .backendControl, .query, false⟩,
    ⟨"identity_profile_upsert", .backendControl, .command, false⟩,
    ⟨"key_trust_list_request", .backendControl, .query, false⟩,
    ⟨"key_trust_upsert", .backendControl, .command, false⟩,
    ⟨"key_trust_delete", .backendControl, .command, false⟩,
    ⟨"mls_commit", .backendControl, .command, false⟩,
    ⟨"mls_welcome_request", .backendControl, .command, false⟩,
    ⟨"mls_welcome_ack", .backendControl, .command, false⟩,
    ⟨"presence_state", .backendControl, .signal, false⟩,
    ⟨"chat_typing_state", .backendControl, .signal, false⟩,
    ⟨"signal", .backendControl, .signal, false⟩,
    ⟨"chat_message_read", .backendControl, .command, false⟩,
    ⟨"call_token_request", .backendControl, .query, false⟩,
    ⟨"call_session_create", .backendControl, .command, false⟩,
    ⟨"call_session_invite", .backendControl, .command, false⟩,
    ⟨"call_session_join", .backendControl, .command, false⟩,
    ⟨"call_session_leave", .backendControl, .command, false⟩,
    ⟨"call_session_media_key", .backendControl, .signal, false⟩,
    ⟨"call_session_mute", .backendControl, .signal, false⟩,
    ⟨"call_session_camera", .backendControl, .signal, false⟩,
    ⟨"call_session_token_request", .backendControl, .query, false⟩,
    ⟨"call_invite", .backendControl, .command, false⟩,
    ⟨"call_join", .backendControl, .command, false⟩,
    ⟨"call_leave", .backendControl, .command, false⟩,
    ⟨"call_mute", .backendControl, .signal, false⟩,
    ⟨"call_camera", .backendControl, .signal, false⟩,
    ⟨"call_media_key", .backendControl, .signal, false⟩,
    ⟨"file_transfer_offer", .relayHotpath, .command, true⟩,
    ⟨"file_transfer_accept", .relayHotpath, .command, true⟩,
    ⟨"file_transfer_reject", .relayHotpath, .command, true⟩,
    ⟨"file_transfer_handshake", .relayHotpath, .command, false⟩,
    ⟨"file_transfer_handshake_ack", .relayHotpath, .command, false⟩,
    ⟨"file_transfer_welcome", .relayHotpath, .command, false⟩,
    ⟨"file_transfer_file_key", .relayHotpath, .command, false⟩,
    ⟨"file_transfer_file_key_ack", .relayHotpath, .command, false⟩,
    ⟨"file_transfer_chunk", .relayHotpath, .command, false⟩,
    ⟨"file_transfer_complete", .relayHotpath, .command, true⟩,
    ⟨"file_transfer_complete_ack", .relayHotpath, .command, true⟩,
    ⟨"file_transfer_resume_request", .relayHotpath, .command, false⟩,
    ⟨"file_transfer_cancel", .relayHotpath, .command, true⟩,
    ⟨"chat_message_send", .backendControl, .command, false⟩]

/-- An offer opens a transfer, so there is no context yet that it could
require. -/
def fileTransferOfferBootstrap : RelayAuthorizationSpec where
  requiresRelayContext := false
  relayContextType := .fileTransferPeer
  audienceScopeMode := .fixedPeer
  guardClass := .contextBoundPeer
  commandFamily := "file_transfer"
  operationKeyField := "transfer_id"

def fileTransferPeerContext : RelayAuthorizationSpec where
  requiresRelayContext := true
  relayContextType := .fileTransferPeer
  audienceScopeMode := .fixedPeer
  guardClass := .contextBoundPeer
  commandFamily := "file_transfer"
  operationKeyField := "transfer_id"

def relayAuthorizationRegistry : List RelayAuthorizationEntry :=
  [ ⟨"file_transfer_offer", fileTransferOfferBootstrap⟩,
    ⟨"file_transfer_accept", fileTransferPeerContext⟩,
    ⟨"file_transfer_reject", fileTransferPeerContext⟩,
    ⟨"file_transfer_handshake", fileTransferPeerContext⟩,
    ⟨"file_transfer_handshake_ack", fileTransferPeerContext⟩,
    ⟨"file_transfer_welcome", fileTransferPeerContext⟩,
    ⟨"file_transfer_file_key", fileTransferPeerContext⟩,
    ⟨"file_transfer_file_key_ack", fileTransferPeerContext⟩,
    ⟨"file_transfer_chunk", fileTransferPeerContext⟩,
    ⟨"file_transfer_complete", fileTransferPeerContext⟩,
    ⟨"file_transfer_complete_ack", fileTransferPeerContext⟩,
    ⟨"file_transfer_resume_request", fileTransferPeerContext⟩,
    ⟨"file_transfer_cancel", fileTransferPeerContext⟩]

/-- Both registries as the gateway is built with them. -/
def builtinRegistry : CommandRegistry where
  commands := commandRegistry
  relayAuthorizations := relayAuthorizationRegistry

end Ingress
end Gateway
