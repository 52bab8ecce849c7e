-- Names of the later emoji: more faces, gestures, people, animals, food and things.

namespace Stencil.Emoji

/-- Each emoji with its names. -/
def supplement : List (String × List String) := [
  ("🤍", ["white_heart"]), ("🤎", ["brown_heart"]), ("🤏", ["pinching_hand"]),
  ("🤐", ["zipper-mouth_face", "zipper__mouth_face"]),
  ("🤑", ["money-mouth_face", "money__mouth_face"]), ("🤒", ["face_with_thermometer"]),
  ("🤓", ["nerd_face"]), ("🤔", ["thinking_face"]),
  ("🤕", ["face_with_head-bandage", "face_with_head__bandage"]), ("🤖", ["robot", "robot_face"]),
  ("🤗", ["hugging_face"]), ("🤘", ["sign_of_the_horns"]), ("🤙", ["call_me_hand"]),
  ("🤚", ["raised_back_of_hand"]), ("🤛", ["left-facing_fist"]), ("🤜", ["right-facing_fist"]),
  ("🤝", ["handshake"]), ("🤞", ["crossed_fingers"]), ("🤟", ["love-you_gesture"]),
  ("🤠", ["cowboy_hat_face"]), ("🤡", ["clown_face"]), ("🤢", ["nauseated_face"]),
  ("🤣", ["rolling_on_the_floor_laughing"]), ("🤤", ["drooling_face"]), ("🤥", ["lying_face"]),
  ("🤦", ["person_facepalming"]), ("🤧", ["sneezing_face"]), ("🤨", ["face_with_raised_eyebrow"]),
  ("🤩", ["star-struck"]), ("🤪", ["zany_face"]), ("🤫", ["shushing_face"]),
  ("🤬", ["face_with_symbols_on_mouth"]), ("🤭", ["face_with_hand_over_mouth"]),
  ("🤮", ["face_vomiting"]), ("🤯", ["exploding_head"]), ("🤰", ["pregnant_woman"]),
  ("🤱", ["breast-feeding"]), ("🤲", ["palms_up_together"]), ("🤳", ["selfie"]), ("🤴", ["prince"]),
  ("🤵", ["man_in_tuxedo"]), ("🤶", ["mrs._claus"]), ("🤷", ["person_shrugging"]),
  ("🤸", ["person_cartwheeling"]), ("🤹", ["person_juggling"]), ("🤺", ["person_fencing"]),
  ("🤼", ["people_wrestling"]), ("🤽", ["person_playing_water_polo"]),
  ("🤾", ["person_playing_handball"]), ("🤿", ["diving_mask"]), ("🥀", ["wilted_flower"]),
  ("🥁", ["drum"]), ("🥂", ["clinking_glasses"]), ("🥃", ["tumbler_glass"]), ("🥄", ["spoon"]),
  ("🥅", ["goal_net"]), ("🥇", ["1st_place_medal"]), ("🥈", ["2nd_place_medal"]),
  ("🥉", ["3rd_place_medal"]), ("🥊", ["boxing_glove"]), ("🥋", ["martial_arts_uniform"]),
  ("🥌", ["curling_stone"]), ("🥍", ["lacrosse"]), ("🥎", ["softball"]), ("🥏", ["flying_disc"]),
  ("🥐", ["croissant"]), ("🥑", ["avocado"]), ("🥒", ["cucumber"]), ("🥓", ["bacon"]),
  ("🥔", ["potato"]), ("🥕", ["carrot"]), ("🥖", ["baguette_bread"]), ("🥗", ["green_salad"]),
  ("🥘", ["shallow_pan_of_food"]), ("🥙", ["stuffed_flatbread"]), ("🥛", ["glass_of_milk"]),
  ("🥜", ["peanuts"]), ("🥝", ["kiwi_fruit"]), ("🥞", ["pancakes"]), ("🥟", ["dumpling"]),
  ("🥠", ["fortune_cookie"]), ("🥡", ["takeout_box"]), ("🥢", ["chopsticks"]),
  ("🥣", ["bowl_with_spoon"]), ("🥤", ["cup_with_straw"]), ("🥥", ["coconut"]), ("🥦", ["broccoli"]),
  ("🥧", ["pie"]), ("🥨", ["pretzel"]), ("🥩", ["cut_of_meat"]), ("🥪", ["sandwich"]),
  ("🥫", ["canned_food"]), ("🥬", ["leafy_green"]), ("🥭", ["mango"]), ("🥮", ["moon_cake"]),
  ("🥯", ["bagel"]), ("🥰", ["smiling_face_with_3_hearts"]), ("🥱", ["yawning_face"]),
  ("🥳", ["partying_face"]), ("🥴", ["woozy_face"]), ("🥵", ["hot_face"]), ("🥶", ["cold_face"]),
  ("🥺", ["pleading_face"]), ("🥻", ["sari"]), ("🥼", ["lab_coat"]), ("🥽", ["goggles"]),
  ("🥾", ["hiking_boot"]), ("🥿", ["flat_shoe"]), ("🦀", ["crab"]), ("🦁", ["lion_face"]),
  ("🦂", ["scorpion"]), ("🦃", ["turkey"]), ("🦄", ["unicorn_face"]), ("🦅", ["eagle"]),
  ("🦆", ["duck"]), ("🦇", ["bat"]), ("🦈", ["shark"]), ("🦉", ["owl"]), ("🦊", ["fox_face"]),
  ("🦋", ["butterfly"]), ("🦌", ["deer"]), ("🦍", ["gorilla"]), ("🦎", ["lizard"]),
  ("🦏", ["rhinoceros"]), ("🦐", ["shrimp"]), ("🦑", ["squid"]), ("🦒", ["giraffe"]),
  ("🦓", ["zebra"]), ("🦔", ["hedgehog"]), ("🦕", ["sauropod"]), ("🦖", ["t-rex"]),
  ("🦗", ["cricket"]), ("🦘", ["kangaroo"]), ("🦙", ["llama"]), ("🦚", ["peacock"]),
  ("🦛", ["hippopotamus"]), ("🦜", ["parrot"]), ("🦝", ["raccoon"]), ("🦞", ["lobster"]),
  ("🦟", ["mosquito"]), ("🦠", ["microbe"]), ("🦡", ["badger"]), ("🦢", ["swan"]), ("🦥", ["sloth"]),
  ("🦦", ["otter"]), ("🦧", ["orangutan"]), ("🦨", ["skunk"]), ("🦩", ["flamingo"]),
  ("🦪", ["oyster"]), ("🦮", ["guide_dog"]), ("🦯", ["probing_cane"]), ("🦰", ["red_hair"]),
  ("🦱", ["curly_hair"]), ("🦲", ["bald"]), ("🦳", ["white_hair"]), ("🦴", ["bone"]), ("🦵", ["leg"]),
  ("🦶", ["foot"]), ("🦷", ["tooth"]), ("🦸", ["superhero"]), ("🦹", ["supervillain"]),
  ("🦺", ["safety_vest"]), ("🦻", ["ear_with_hearing_aid"]), ("🦼", ["motorized_wheelchair"]),
  ("🦽", ["manual_wheelchair"]), ("🦾", ["mechanical_arm"]), ("🦿", ["mechanical_leg"]),
  ("🧀", ["cheese_wedge"]), ("🧁", ["cupcake"]), ("🧂", ["salt"]), ("🧃", ["beverage_box"]),
  ("🧄", ["garlic"]), ("🧅", ["onion"]), ("🧆", ["falafel"]), ("🧇", ["waffle"]), ("🧈", ["butter"]),
  ("🧉", ["mate"]), ("🧊", ["ice"]), ("🧍", ["person_standing"]), ("🧎", ["person_kneeling"]),
  ("🧏", ["deaf_person"]), ("🧐", ["face_with_monocle"]), ("🧑", ["adult"]), ("🧒", ["child"]),
  ("🧓", ["older_adult"]), ("🧔", ["bearded_person"]), ("🧕", ["woman_with_headscarf"]),
  ("🧖", ["person_in_steamy_room"]), ("🧗", ["person_climbing"]),
  ("🧘", ["person_in_lotus_position"]), ("🧙", ["mage"]), ("🧚", ["fairy"]), ("🧛", ["vampire"]),
  ("🧜", ["merperson"]), ("🧝", ["elf"]), ("🧞", ["genie"]), ("🧟", ["zombie"]), ("🧠", ["brain"]),
  ("🧡", ["orange_heart"]), ("🧢", ["billed_cap"]), ("🧣", ["scarf"]), ("🧤", ["gloves"]),
  ("🧥", ["coat"]), ("🧦", ["socks"]), ("🧧", ["red_envelope"]), ("🧨", ["firecracker"]),
  ("🧩", ["jigsaw"]), ("🧪", ["test_tube"]), ("🧫", ["petri_dish"]), ("🧬", ["dna"]),
  ("🧭", ["compass"]), ("🧮", ["abacus"]), ("🧯", ["fire_extinguisher"]), ("🧰", ["toolbox"]),
  ("🧱", ["brick"]), ("🧲", ["magnet"]), ("🧳", ["luggage"]), ("🧴", ["lotion_bottle"]),
  ("🧵", ["thread"]), ("🧶", ["yarn"]), ("🧷", ["safety_pin"]), ("🧸", ["teddy_bear"]),
  ("🧹", ["broom"]), ("🧺", ["basket"]), ("🧻", ["roll_of_paper"]), ("🧼", ["soap"]),
  ("🧽", ["sponge"]), ("🧾", ["receipt"]), ("🧿", ["nazar_amulet"]), ("🩰", ["ballet_shoes"]),
  ("🩱", ["one-piece_swimsuit"]), ("🩲", ["briefs"]), ("🩳", ["shorts"]), ("🩸", ["drop_of_blood"]),
  ("🩹", ["adhesive_bandage"]), ("🩺", ["stethoscope"]), ("🪀", ["yo-yo"]), ("🪁", ["kite"]),
  ("🪐", ["ringed_planet"]), ("🪑", ["chair"]), ("🪒", ["razor"]), ("🪓", ["axe"]),
  ("🪔", ["diya_lamp"]), ("🪕", ["banjo"])]

end Stencil.Emoji
