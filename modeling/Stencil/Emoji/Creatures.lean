-- Names of the pictographs of animals, parts of the body, people, hearts, money and the office.

namespace Stencil.Emoji

/-- Each emoji with its names. -/
def creatures : List (String × List String) := [
  ("🐀", ["rat"]), ("🐁", ["mouse2"]), ("🐂", ["ox"]), ("🐃", ["water_buffalo"]), ("🐄", ["cow2"]),
  ("🐅", ["tiger2"]), ("🐆", ["leopard"]), ("🐇", ["rabbit2"]), ("🐈", ["cat2"]), ("🐉", ["dragon"]),
  ("🐊", ["crocodile"]), ("🐋", ["whale2"]), ("🐌", ["snail"]), ("🐍", ["snake"]),
  ("🐎", ["racehorse"]), ("🐏", ["ram"]), ("🐐", ["goat"]), ("🐑", ["ewe", "sheep"]),
  ("🐒", ["monkey"]), ("🐓", ["rooster"]), ("🐔", ["chicken"]), ("🐕", ["dog2"]), ("🐖", ["pig2"]),
  ("🐗", ["boar"]), ("🐘", ["elephant"]), ("🐙", ["octopus"]), ("🐚", ["shell", "spiral_shell"]),
  ("🐛", ["bug"]), ("🐜", ["ant"]), ("🐝", ["bee", "honeybee"]), ("🐞", ["beetle", "lady_beetle"]),
  ("🐟", ["fish"]), ("🐠", ["tropical_fish"]), ("🐡", ["blowfish"]), ("🐢", ["turtle"]),
  ("🐣", ["hatching_chick"]), ("🐤", ["baby_chick"]),
  ("🐥", ["front-facing_baby_chick", "hatched_chick"]), ("🐦", ["bird"]), ("🐧", ["penguin"]),
  ("🐨", ["koala"]), ("🐩", ["poodle"]), ("🐪", ["dromedary_camel"]),
  ("🐫", ["camel", "two-hump_camel"]), ("🐬", ["dolphin", "flipper"]),
  ("🐭", ["mouse", "mouse_face"]), ("🐮", ["cow", "cow_face"]), ("🐯", ["tiger", "tiger_face"]),
  ("🐰", ["rabbit", "rabbit_face"]), ("🐱", ["cat", "cat_face"]), ("🐲", ["dragon_face"]),
  ("🐳", ["spouting_whale", "whale"]), ("🐴", ["horse", "horse_face"]), ("🐵", ["monkey_face"]),
  ("🐶", ["dog", "dog_face"]), ("🐷", ["pig", "pig_face"]), ("🐸", ["frog", "frog_face"]),
  ("🐹", ["hamster", "hamster_face"]), ("🐺", ["wolf", "wolf_face"]), ("🐻", ["bear", "bear_face"]),
  ("🐼", ["panda_face"]), ("🐽", ["pig_nose"]), ("🐾", ["feet", "paw_prints"]), ("🐿", ["chipmunk"]),
  ("👀", ["eyes"]), ("👁", ["eye"]), ("👂", ["ear"]), ("👃", ["nose"]), ("👄", ["lips", "mouth"]),
  ("👅", ["tongue"]), ("👆", ["backhand_index_pointing_up", "point_up_2"]),
  ("👇", ["backhand_index_pointing_down", "point_down"]),
  ("👈", ["backhand_index_pointing_left", "point_left"]),
  ("👉", ["backhand_index_pointing_right", "point_right"]),
  ("👊", ["facepunch", "oncoming_fist", "punch"]), ("👋", ["wave", "waving_hand"]),
  ("👌", ["ok_hand"]), ("👍", ["+1", "thumbs_up", "thumbsup"]),
  ("👎", ["-1", "__1", "thumbs_down", "thumbsdown"]), ("👏", ["clap", "clapping_hands"]),
  ("👐", ["open_hands"]), ("👑", ["crown"]), ("👒", ["womans_hat", "woman’s_hat"]),
  ("👓", ["eyeglasses", "glasses"]), ("👔", ["necktie"]), ("👕", ["shirt", "t-shirt", "tshirt"]),
  ("👖", ["jeans"]), ("👗", ["dress"]), ("👘", ["kimono"]), ("👙", ["bikini"]),
  ("👚", ["womans_clothes", "woman’s_clothes"]), ("👛", ["purse"]), ("👜", ["handbag"]),
  ("👝", ["clutch_bag", "pouch"]), ("👞", ["mans_shoe", "man’s_shoe", "shoe"]),
  ("👟", ["athletic_shoe", "running_shoe"]), ("👠", ["high-heeled_shoe", "high_heel"]),
  ("👡", ["sandal", "woman’s_sandal"]), ("👢", ["boot", "woman’s_boot"]), ("👣", ["footprints"]),
  ("👤", ["bust_in_silhouette"]), ("👥", ["busts_in_silhouette"]), ("👦", ["boy"]), ("👧", ["girl"]),
  ("👨", ["man"]), ("👩", ["woman"]), ("👪", ["family"]),
  ("👫", ["couple", "man_and_woman_holding_hands"]), ("👬", ["two_men_holding_hands"]),
  ("👭", ["two_women_holding_hands"]), ("👮", ["cop", "police_officer"]),
  ("👯", ["dancers", "people_with_bunny_ears"]), ("👰", ["bride_with_veil"]),
  ("👱", ["blond-haired_person", "person_with_blond_hair"]),
  ("👲", ["man_with_chinese_cap", "man_with_gua_pi_mao"]),
  ("👳", ["man_with_turban", "person_wearing_turban"]), ("👴", ["old_man", "older_man"]),
  ("👵", ["old_woman", "older_woman"]), ("👶", ["baby"]), ("👷", ["construction_worker"]),
  ("👸", ["princess"]), ("👹", ["japanese_ogre", "ogre"]), ("👺", ["goblin", "japanese_goblin"]),
  ("👻", ["ghost"]), ("👼", ["angel", "baby_angel"]), ("👽", ["alien"]),
  ("👾", ["alien_monster", "space_invader"]), ("👿", ["angry_face_with_horns", "imp"]),
  ("💀", ["skull"]), ("💁", ["information_desk_person", "person_tipping_hand"]),
  ("💂", ["guard", "guardsman"]), ("💃", ["dancer", "woman_dancing"]), ("💄", ["lipstick"]),
  ("💅", ["nail_care", "nail_polish"]), ("💆", ["massage", "person_getting_massage"]),
  ("💇", ["haircut", "person_getting_haircut"]), ("💈", ["barber", "barber_pole"]),
  ("💉", ["syringe"]), ("💊", ["pill"]), ("💋", ["kiss", "kiss_mark"]), ("💌", ["love_letter"]),
  ("💍", ["ring"]), ("💎", ["gem", "gem_stone"]), ("💏", ["couplekiss"]), ("💐", ["bouquet"]),
  ("💑", ["couple_with_heart"]), ("💒", ["wedding"]), ("💓", ["beating_heart", "heartbeat"]),
  ("💔", ["broken_heart"]), ("💕", ["two_hearts"]), ("💖", ["sparkling_heart"]),
  ("💗", ["growing_heart", "heartpulse"]), ("💘", ["cupid", "heart_with_arrow"]),
  ("💙", ["blue_heart"]), ("💚", ["green_heart"]), ("💛", ["yellow_heart"]), ("💜", ["purple_heart"]),
  ("💝", ["gift_heart", "heart_with_ribbon"]), ("💞", ["revolving_hearts"]),
  ("💟", ["heart_decoration"]), ("💠", ["diamond_shape_with_a_dot_inside", "diamond_with_a_dot"]),
  ("💡", ["bulb", "light_bulb"]), ("💢", ["anger", "anger_symbol"]), ("💣", ["bomb"]),
  ("💤", ["zzz"]), ("💥", ["boom", "collision"]), ("💦", ["sweat_droplets", "sweat_drops"]),
  ("💧", ["droplet"]), ("💨", ["dash", "dashing_away"]),
  ("💩", ["hankey", "pile_of_poo", "poop", "shit"]), ("💪", ["flexed_biceps", "muscle"]),
  ("💫", ["dizzy"]), ("💬", ["speech_balloon"]), ("💭", ["thought_balloon"]),
  ("💮", ["white_flower"]), ("💯", ["100", "hundred_points"]), ("💰", ["money_bag", "moneybag"]),
  ("💱", ["currency_exchange"]), ("💲", ["heavy_dollar_sign"]), ("💳", ["credit_card"]),
  ("💴", ["yen", "yen_banknote"]), ("💵", ["dollar", "dollar_banknote"]),
  ("💶", ["euro", "euro_banknote"]), ("💷", ["pound", "pound_banknote"]),
  ("💸", ["money_with_wings"]), ("💹", ["chart", "chart_increasing_with_yen"]), ("💺", ["seat"]),
  ("💻", ["computer", "laptop_computer"]), ("💼", ["briefcase"]),
  ("💽", ["computer_disk", "minidisc"]), ("💾", ["floppy_disk"]), ("💿", ["cd", "optical_disk"]),
  ("📀", ["dvd"]), ("📁", ["file_folder"]), ("📂", ["open_file_folder"]), ("📃", ["page_with_curl"]),
  ("📄", ["page_facing_up"]), ("📅", ["date"]), ("📆", ["calendar", "tear-off_calendar"]),
  ("📇", ["card_index"]), ("📈", ["chart_increasing", "chart_with_upwards_trend"]),
  ("📉", ["chart_decreasing", "chart_with_downwards_trend"]), ("📊", ["bar_chart"]),
  ("📋", ["clipboard"]), ("📌", ["pushpin"]), ("📍", ["round_pushpin"]), ("📎", ["paperclip"]),
  ("📏", ["straight_ruler"]), ("📐", ["triangular_ruler"]), ("📑", ["bookmark_tabs"]),
  ("📒", ["ledger"]), ("📓", ["notebook"]), ("📔", ["notebook_with_decorative_cover"]),
  ("📕", ["closed_book"]), ("📖", ["book", "open_book"]), ("📗", ["green_book"]),
  ("📘", ["blue_book"]), ("📙", ["orange_book"]), ("📚", ["books"]), ("📛", ["name_badge"]),
  ("📜", ["scroll"]), ("📝", ["memo", "pencil"]), ("📞", ["telephone_receiver"]), ("📟", ["pager"]),
  ("📠", ["fax", "fax_machine"]), ("📡", ["satellite", "satellite_antenna"]),
  ("📢", ["loudspeaker"]), ("📣", ["mega", "megaphone"]), ("📤", ["outbox_tray"]),
  ("📥", ["inbox_tray"]), ("📦", ["package"]), ("📧", ["e-mail", "e__mail"]),
  ("📨", ["incoming_envelope"]), ("📩", ["envelope_with_arrow"]),
  ("📪", ["closed_mailbox_with_lowered_flag", "mailbox_closed"]),
  ("📫", ["closed_mailbox_with_raised_flag", "mailbox"]),
  ("📬", ["mailbox_with_mail", "open_mailbox_with_raised_flag"]),
  ("📭", ["mailbox_with_no_mail", "open_mailbox_with_lowered_flag"]), ("📮", ["postbox"]),
  ("📯", ["postal_horn"]), ("📰", ["newspaper"]), ("📱", ["iphone", "mobile_phone"]),
  ("📲", ["calling", "mobile_phone_with_arrow"]), ("📳", ["vibration_mode"]),
  ("📴", ["mobile_phone_off"]), ("📵", ["no_mobile_phones"]),
  ("📶", ["antenna_bars", "signal_strength"]), ("📷", ["camera"]), ("📸", ["camera_with_flash"]),
  ("📹", ["video_camera"]), ("📺", ["television", "tv"]), ("📻", ["radio"]),
  ("📼", ["vhs", "videocassette"]), ("📽", ["film_projector"]), ("📿", ["prayer_beads"])]

end Stencil.Emoji
